import HostProbe.Proofs.Config.Setting

/-! What the readers of the records make of a document without tags, in terms of what it holds at each
path. -/

namespace HostProbe

open Yaml Yaml.Value Settings

section Fields

variable {α : Type} {v w : Value} {es : Entries} {fs : Fields} {name : String}

lemma map_eq_of_mapM {β : Type} {f : α → Option β} {as : List α} {bs : List β}
    (h : as.mapM f = some bs) : as.map f = bs.map some := by
  induction as generalizing bs with
  | nil =>
    cases h
    rfl
  | cons a as ih =>
    rw [List.mapM_cons] at h
    obtain ⟨b, hb, h⟩ := Option.bind_eq_some_iff.mp h
    obtain ⟨bs', hbs, h⟩ := Option.bind_eq_some_iff.mp h
    cases h
    rw [List.map_cons, List.map_cons, hb, ih hbs]

lemma eq_text_of_text? (hv : v.NoTag) (h : text? v = some name) : v = .text name := by
  cases v with
  | text s =>
    cases h
    rfl
  | tagged => cases hv
  | _ => cases h

def textKeyed (fs : Fields) : Entries := fs.map fun e => (.text e.1, e.2)

lemma eq_textKeyed_of_fields? (hes : (mapping es).Plain) (h : fields? (.mapping es) = some fs) :
    es = textKeyed fs := by
  have hkeys : ∀ e ∈ es, e.1.NoTag := fun e he => (hes.tagFree.of_part (key_mem_parts he)).here
  have hread := map_eq_of_mapM (show es.mapM _ = some fs from h)
  clear hes h
  induction es generalizing fs with
  | nil =>
    cases List.map_eq_nil_iff.mp hread.symm
    rfl
  | cons e es ih =>
    obtain ⟨f, fs', rfl, hf, hfs⟩ := List.map_eq_cons_iff.mp hread.symm
    obtain ⟨name, hname, rfl⟩ := Option.map_eq_some_iff.mp hf.symm
    have hkey : e.1 = .text name := eq_text_of_text? (hkeys e List.mem_cons_self) hname
    have htail : es = textKeyed fs' := ih (fun e he => hkeys e (List.mem_cons_of_mem _ he)) hfs.symm
    rw [htail, textKeyed, textKeyed, List.map_cons, ← hkey]

lemma fields?_cases (hv : v.Plain) (h : fields? v = some fs) :
    (v = .null ∧ fs = []) ∨ v = .mapping (textKeyed fs) := by
  cases v with
  | null =>
    cases h
    exact .inl ⟨rfl, rfl⟩
  | mapping es => exact .inr (congrArg _ (eq_textKeyed_of_fields? hv h))
  | tagged => cases hv.tagFree.here
  | _ => cases h

lemma find?_textKeyed_cons (e : String × Value) :
    Entries.find? (.text name) (textKeyed (e :: fs)) =
      if e.1 = name then some e.2 else Entries.find? (.text name) (textKeyed fs) := by
  rw [textKeyed, List.map_cons, Entries.find?_cons, same]
  simp only [beq_iff_eq]
  rfl

lemma nodup_names (hv : v.Plain) (h : fields? v = some fs) : (fs.map (·.1)).Nodup := by
  obtain ⟨-, rfl⟩ | rfl := fields?_cases hv h
  · exact .nil
  · have hdiffer := hv.distinct.here
    rw [KeysDiffer, textKeyed, List.pairwise_map] at hdiffer
    rw [List.Nodup, List.pairwise_map]
    exact hdiffer.imp fun {e f} hef heq => by simp [same, heq] at hef

lemma at?_of_fields? (hv : v.Plain) (h : fields? v = some fs) (name : String) :
    v.at? [.text name] = Entries.find? (.text name) (textKeyed fs) := by
  obtain ⟨rfl, rfl⟩ | rfl := fields?_cases hv h
  · rfl
  · simp [Value.at?]

lemma field?_eq (hv : v.Plain) (h : fields? v = some fs) (name : String) (read : Value → Option α)
    (otherwise : α) :
    field? fs name read otherwise = (v.at? [.text name]).elim (some otherwise) read := by
  have hnames := nodup_names hv h
  rw [at?_of_fields? hv h]
  clear h hv
  induction fs with
  | nil => rfl
  | cons e fs ih =>
    obtain ⟨hfirst, hrest⟩ := List.nodup_cons.mp hnames
    rw [find?_textKeyed_cons]
    by_cases hkey : e.1 = name
    · have hnone : fs.filter (·.1 == name) = [] := by
        refine List.filter_eq_nil_iff.mpr fun f hf hname => hfirst ?_
        exact List.mem_map.mpr ⟨f, hf, (beq_iff_eq.mp hname).trans hkey.symm⟩
      simp [field?, hkey, hnone]
    · rw [if_neg hkey, ← ih hrest]
      simp [field?, hkey]

end Fields

section Records

variable {ρ : Type}

lemma strategy?_eq : strategy? = RetryStrategy.ofValue? := by
  have hnamed (name : String) : strategies.lookup name = RetryStrategy.named? name := by
    simp only [strategies, List.lookup_cons, List.lookup_nil, RetryStrategy.named?, List.find?_cons,
      List.find?_nil, RetryStrategy.text, Bool.beq_comm (a := name)]
  funext v
  cases v <;> simp only [strategy?, RetryStrategy.ofValue?, hnamed]

end Records

section Shape

variable {α β ρ : Type} {v : Value} {fs : Fields}

def isRecord (v : Value) : Bool :=
  match v.untagged with
  | .null => true
  | .mapping es => es.all fun e => (text? e.1).isSome
  | _ => false

def entriesOf (v : Value) : Entries :=
  match v.untagged with
  | .mapping es => es
  | _ => []

def under (name : String) (v : Value) : List Value :=
  (entriesOf v).filterMap fun e => if text? e.1 = some name then some e.2 else none

def fits (name : String) (fit : Value → Bool) (v : Value) : Bool :=
  match under name v with
  | [] => true
  | [w] => fit w
  | _ => false

def hasSettings (settings : List (Setting ρ)) (v : Value) : Bool :=
  isRecord v && settings.all fun f => fits f.name (fun w => (f.read w).isSome) v

def hasOperations (v : Value) : Bool :=
  isRecord v && (entriesOf v).all fun e => hasSettings RetryPolicy.settings e.2

def hasPolicies (v : Value) : Bool :=
  isRecord v && fits "default" (hasSettings RetryPolicy.settings) v && fits "operations" hasOperations v

def hasShape (v : Value) : Bool :=
  isRecord v && fits "execution" (hasSettings ExecutionSettings.settings) v &&
    fits "retry-policies" hasPolicies v && fits "polling" (hasSettings PollingSettings.settings) v &&
    fits "kdump" (hasSettings KdumpSettings.settings) v && fits "ssh" (hasSettings SshSettings.settings) v

lemma isSome_mapM (f : α → Option β) (as : List α) :
    (as.mapM f).isSome = as.all fun a => (f a).isSome := by
  induction as with
  | nil => rfl
  | cons a as ih =>
    rw [List.mapM_cons, List.all_cons, ← ih]
    cases f a with
    | none => rfl
    | some b => cases as.mapM f <;> rfl

lemma isSome_bind_of {a : Option α} {f : α → Option β} {b : Bool} (h : ∀ x, a = some x → (f x).isSome = b) :
    (a >>= f).isSome = (a.isSome && b) := by
  cases a with
  | none => rfl
  | some x => exact h x rfl

lemma isSome_fields? (v : Value) : (fields? v).isSome = isRecord v := by
  unfold fields? isRecord
  cases v.untagged with
  | mapping es => simp [isSome_mapM]
  | _ => rfl

lemma entriesOf_fields? (h : fields? v = some fs) :
    List.Forall₂ (fun e f => text? e.1 = some f.1 ∧ e.2 = f.2) (entriesOf v) fs := by
  unfold fields? at h
  unfold entriesOf
  cases hv : v.untagged with
  | null =>
    rw [hv] at h
    cases h
    exact .nil
  | mapping es =>
    rw [hv] at h
    have hread := map_eq_of_mapM h
    clear h hv
    dsimp only
    induction es generalizing fs with
    | nil =>
      cases List.map_eq_nil_iff.mp hread.symm
      exact .nil
    | cons e es ih =>
      obtain ⟨f, fs', rfl, hf, hfs⟩ := List.map_eq_cons_iff.mp hread.symm
      obtain ⟨name, hname, rfl⟩ := Option.map_eq_some_iff.mp hf.symm
      exact .cons ⟨hname, rfl⟩ (ih hfs.symm)
  | _ =>
    rw [hv] at h
    cases h

lemma under_of_fields? (h : fields? v = some fs) (name : String) :
    under name v = (fs.filter (·.1 == name)).map (·.2) := by
  have hentries := entriesOf_fields? h
  unfold under
  generalize entriesOf v = es at hentries
  clear h
  induction hentries with
  | nil => rfl
  | @cons e f es fs hef _ ih =>
    rw [List.filterMap_cons, List.filter_cons, hef.1, hef.2, ih]
    by_cases hname : f.1 = name
    · simp [hname]
    · simp [hname]

lemma isSome_field? {read : Value → Option α} {own : α} {name : String} (h : fields? v = some fs) :
    (field? fs name read own).isSome = fits name (fun w => (read w).isSome) v := by
  unfold field? fits
  rw [under_of_fields? h]
  generalize fs.filter (·.1 == name) = found
  rcases found with _ | ⟨f, _ | ⟨f', rest⟩⟩ <;> rfl

lemma all_entriesOf (h : fields? v = some fs) (fit : Value → Bool) :
    ((entriesOf v).all fun e => fit e.2) = fs.all fun f => fit f.2 := by
  have hentries := entriesOf_fields? h
  generalize entriesOf v = es at hentries
  clear h
  induction hentries with
  | nil => rfl
  | cons hef _ ih => rw [List.all_cons, List.all_cons, hef.2, ih]

lemma isSome_of_fields {read : Value → Option ρ} {rest : Fields → Option ρ} {fit : Bool}
    (hread : read v = (fields? v).bind rest) (hrest : ∀ fs, fields? v = some fs → (rest fs).isSome = fit) :
    (read v).isSome = (isRecord v && fit) := by
  rw [hread, ← isSome_fields?]
  exact isSome_bind_of hrest

lemma ExecutionSettings.isSome_ofValue? (v : Value) : (ofValue? v).isSome = hasSettings settings v := by
  refine isSome_of_fields rfl fun fs hfs => ?_
  refine (isSome_bind_of fun _ _ => isSome_bind_of (b := true) fun _ _ => rfl).trans ?_
  simp only [isSome_field? hfs, settings, List.all_cons, List.all_nil]

lemma RetryPolicy.isSome_ofValue? (v : Value) : (ofValue? v).isSome = hasSettings settings v := by
  refine isSome_of_fields rfl fun fs hfs => ?_
  refine (isSome_bind_of fun _ _ => isSome_bind_of fun _ _ => isSome_bind_of fun _ _ =>
    isSome_bind_of fun _ _ => isSome_bind_of (b := true) fun _ _ => rfl).trans ?_
  simp only [isSome_field? hfs, settings, List.all_cons, List.all_nil, strategy?_eq]

lemma PollingSettings.isSome_ofValue? (v : Value) : (ofValue? v).isSome = hasSettings settings v := by
  refine isSome_of_fields rfl fun fs hfs => ?_
  refine (isSome_bind_of fun _ _ => isSome_bind_of (b := true) fun _ _ => rfl).trans ?_
  simp only [isSome_field? hfs, settings, List.all_cons, List.all_nil]

lemma KdumpSettings.isSome_ofValue? (v : Value) : (ofValue? v).isSome = hasSettings settings v := by
  refine isSome_of_fields rfl fun fs hfs => ?_
  refine (isSome_bind_of fun _ _ => isSome_bind_of fun _ _ => isSome_bind_of fun _ _ =>
    isSome_bind_of fun _ _ => isSome_bind_of (b := true) fun _ _ => rfl).trans ?_
  simp only [isSome_field? hfs, settings, List.all_cons, List.all_nil]

lemma SshSettings.isSome_ofValue? (v : Value) : (ofValue? v).isSome = hasSettings settings v := by
  refine isSome_of_fields rfl fun fs hfs => ?_
  refine (isSome_bind_of fun _ _ => isSome_bind_of fun _ _ => isSome_bind_of fun _ _ =>
    isSome_bind_of (b := true) fun _ _ => rfl).trans ?_
  simp only [isSome_field? hfs, settings, List.all_cons, List.all_nil]

lemma RetrySettings.isSome_operations? (v : Value) : (operations? v).isSome = hasOperations v := by
  refine isSome_of_fields rfl fun fs hfs => ?_
  refine (isSome_bind_of (b := true) fun _ _ => rfl).trans ?_
  rw [isSome_mapM, all_entriesOf hfs, Bool.and_true]
  refine congrArg _ (funext fun e => ?_)
  rw [Option.isSome_map, RetryPolicy.isSome_ofValue?]

lemma RetrySettings.isSome_ofValue? (v : Value) : (ofValue? v).isSome = hasPolicies v := by
  rw [hasPolicies, Bool.and_assoc]
  refine isSome_of_fields rfl fun fs hfs => ?_
  refine (isSome_bind_of fun _ _ => isSome_bind_of (b := true) fun _ _ => rfl).trans ?_
  simp only [isSome_field? hfs, RetryPolicy.isSome_ofValue?, isSome_operations?, Bool.and_true]

lemma Config.isSome_ofValue? (v : Value) : (ofValue? v).isSome = hasShape v := by
  simp only [hasShape, Bool.and_assoc]
  refine isSome_of_fields rfl fun fs hfs => ?_
  refine (isSome_bind_of fun _ _ => isSome_bind_of fun _ _ => isSome_bind_of fun _ _ =>
    isSome_bind_of fun _ _ => isSome_bind_of (b := true) fun _ _ => rfl).trans ?_
  simp only [isSome_field? hfs, ExecutionSettings.isSome_ofValue?, RetrySettings.isSome_ofValue?,
    PollingSettings.isSome_ofValue?, KdumpSettings.isSome_ofValue?, SshSettings.isSome_ofValue?,
    Bool.and_true]

end Shape

namespace RetrySettings

variable {fs : Fields} {policies : List (String × RetryPolicy)} {v w : Value} {name : String}

end RetrySettings

end HostProbe
