import HostProbe.Proofs.Config.Document
import HostProbe.Proofs.Config.Load
import HostProbe.Proofs.Yaml.Document

/-! Where each setting of a loaded configuration comes from: a variable, the named document, that of the
user, the built-in one or the setting itself. -/

namespace HostProbe

open Yaml Yaml.Value Settings

namespace Config

def held (doc : Option Value) (path : List String) : Option Value :=
  (doc.bind (·.at? (path.map .text))).filter (!·.isNull)

/-- The value that the documents give a path: that of the named one, else that of the user, else the
built-in one. -/
def given (s : ConfigSources) (path : List String) : Option Value :=
  (held (namedDocument? s) path).or ((held (userDocument? s) path).or (held (some builtIn) path))

/-- What a setting of the record at a path is: what its variable says, if it has one and it is set, else
what the documents give, else what it is by itself. -/
def settled {ρ : Type} (s : ConfigSources) (path : List String) (f : Setting ρ) : Option f.α :=
  match f.override?.bind fun o => (textOf s o.1).map o.2 with
  | some value => value
  | none => f.ofHeld (given s (path ++ [f.name]))

section Given

variable {s : ConfigSources} {ρ : Type} {f : Setting ρ} {x : f.α} {ys : List (Option Value)}
  {m : Option Value} {v w : Value}

end Given

section Layered

variable {s : ConfigSources} {ρ : Type} {settings : List (Setting ρ)} {read : Value → Option ρ} {r : ρ}
  {v w : Value} {path : String} {content : FileContent}

lemma plain_builtIn : builtIn.Plain := by
  have htext : ∀ t, (text t).Plain := fun _ => plain_of_parts_eq_nil rfl
  have hint : ∀ n, (int n).Plain := fun _ => plain_of_parts_eq_nil rfl
  have hbool : ∀ b, (Value.bool b).Plain := fun _ => plain_of_parts_eq_nil rfl
  have hfloat : ∀ bits, (float bits).Plain := fun _ => plain_of_parts_eq_nil rfl
  simp [builtIn, builtInOperation, entry, plain_mapping_iff, htext, hint, hbool, hfloat, KeysDiffer,
    same]

structure Layered (s : ConfigSources) (v : Value) : Prop where
  merged : v = (mergeAll builtIn (documents s)).1
  noConflict : (mergeAll builtIn (documents s)).2 = []
  tagFree : ∀ doc ∈ documents s, doc.hasTag = false

lemma distinct_of_written? (h : written? content = some v) : v.Distinct := by
  cases content with
  | refused reason => cases h
  | bytes bytes =>
    obtain ⟨text, -, hparse⟩ := Option.bind_eq_some_iff.mp h
    exact distinct_of_parse? hparse

lemma distinct_of_mem_documents (h : v ∈ documents s) : v.Distinct := by
  rw [documents, List.mem_append, Option.mem_toList, Option.mem_toList] at h
  rcases h with huser | hnamed
  · obtain ⟨content, -, hcontent⟩ := Option.bind_eq_some_iff.mp huser
    exact distinct_of_written? hcontent
  · obtain ⟨⟨path, content?⟩, -, hnamed⟩ := Option.bind_eq_some_iff.mp hnamed
    obtain ⟨content, -, hcontent⟩ := Option.bind_eq_some_iff.mp hnamed
    exact distinct_of_written? hcontent

namespace Layered

variable (h : Layered s v)

include h

lemma plain_of_mem : ∀ doc ∈ builtIn :: documents s, doc.Plain :=
  List.forall_mem_cons.mpr ⟨plain_builtIn, fun doc hdoc =>
    ⟨distinct_of_mem_documents hdoc, tagFree_of_hasTag (h.tagFree doc hdoc)⟩⟩

lemma plain : v.Plain := h.merged ▸ plain_mergeAll h.plain_of_mem

lemma plain_at? {path : List Value} (hw : v.at? path = some w) : w.Plain :=
  ⟨h.plain.distinct.at? hw, h.plain.tagFree.at? hw⟩

lemma outline (path : List Value) :
    Outline ((builtIn :: documents s).map (·.at? path)) (v.at? path) :=
  h.merged ▸ outline_mergeAll h.plain_of_mem h.noConflict path

lemma exists_mapping {path : List Value} (hpath : ∃ es, builtIn.at? path = some (.mapping es)) :
    ∃ es, v.at? path = some (.mapping es) := by
  obtain ⟨es, hes⟩ := hpath
  exact (h.outline path).mapping.mpr ⟨es, by simp [hes]⟩

lemma exists_section {α : Type} {read : Value → Option α} {own x : α} {path : List Value}
    (hbuiltIn : ∃ es, builtIn.at? path = some (.mapping es))
    (hx : (v.at? path).elim (some own) read = some x) :
    ∃ w, v.at? path = some w ∧ read w = some x := by
  obtain ⟨es, hes⟩ := h.exists_mapping hbuiltIn
  rw [hes] at hx
  exact ⟨_, hes, hx⟩

end Layered

structure Parts (v : Value) (c : Config) : Prop where
  execution : ∃ w, v.at? [.text "execution"] = some w ∧ ExecutionSettings.ofValue? w = some c.execution
  polling : ∃ w, v.at? [.text "polling"] = some w ∧ PollingSettings.ofValue? w = some c.polling
  kdump : ∃ w, v.at? [.text "kdump"] = some w ∧ KdumpSettings.ofValue? w = some c.kdump
  ssh : ∃ w, v.at? [.text "ssh"] = some w ∧ SshSettings.ofValue? w = some c.ssh
  standard : ∃ w, v.at? [.text "retry-policies", .text "default"] = some w ∧
    RetryPolicy.ofValue? w = some c.retries.standard
  operations : ∃ w, v.at? [.text "retry-policies", .text "operations"] = some w ∧
    RetrySettings.operations? w = some c.retries.operations

lemma Layered.parts (h : Layered s v) {c : Config} (hc : ofValue? v = some c) : Parts v c := by
  obtain ⟨fs, hfs, hc⟩ := Option.bind_eq_some_iff.mp hc
  simp only [Option.bind_eq_bind, Option.bind_eq_some_iff, field?_eq h.plain hfs, Option.pure_def,
    Option.some.injEq] at hc
  obtain ⟨execution, hexecution, retries, hretries, polling, hpolling, kdump, hkdump, ssh, hssh, rfl⟩ :=
    hc
  obtain ⟨w, hw, hretries⟩ := h.exists_section ⟨_, rfl⟩ hretries
  have hwplain := h.plain_at? hw
  obtain ⟨fs', hfs', hretries⟩ := Option.bind_eq_some_iff.mp hretries
  simp only [Option.bind_eq_bind, Option.bind_eq_some_iff, field?_eq hwplain hfs', Option.pure_def,
    Option.some.injEq] at hretries
  obtain ⟨standard, hstandard, operations, hoperations, rfl⟩ := hretries
  have hbelow : ∀ name, w.at? [.text name] = v.at? [.text "retry-policies", .text name] := by
    intro name
    have happend := at?_append [.text "retry-policies"] [.text name] v
    rw [hw] at happend
    exact happend.symm
  rw [hbelow] at hstandard hoperations
  exact {
    execution := h.exists_section ⟨_, rfl⟩ hexecution
    polling := h.exists_section ⟨_, rfl⟩ hpolling
    kdump := h.exists_section ⟨_, rfl⟩ hkdump
    ssh := h.exists_section ⟨_, rfl⟩ hssh
    standard := h.exists_section ⟨_, rfl⟩ hstandard
    operations := h.exists_section ⟨_, rfl⟩ hoperations }

end Layered

section Overrides

variable {s : ConfigSources} {ρ : Type} {f : Setting ρ} {path : List String} {name : String} {x : f.α}

end Overrides

end Config

end HostProbe
