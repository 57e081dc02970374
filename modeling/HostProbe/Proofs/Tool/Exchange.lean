import HostProbe.Proofs.Node.Exchange
import HostProbe.Proofs.Tool.Operation
import HostProbe.Tool.BuiltIn

/-! What procedures ask a machine, through the tools that they get. A tool that is only a command and
cannot be installed asks no more than which system there is and whether the command is found. -/

namespace HostProbe

open HostProbe.Text NodeM

variable {σ α β : Type} {n : Node σ} {asks : List Ask}

namespace Procedure

variable (resolve : ToolRequest → ToolM σ Tool)

lemma run_bind (p : Procedure σ α) (f : α → Procedure σ β) :
    (p >>= f).run resolve = p.run resolve >>= fun x => (f x).run resolve := by
  funext s
  refine (run_andThen resolve p _ s).trans ?_
  rw [bind_apply]
  rcases p.run resolve s with ⟨_ | x, t⟩ <;> rfl

lemma run_map (f : α → β) (p : Procedure σ α) : (f <$> p).run resolve = f <$> p.run resolve :=
  (run_bind resolve p _).trans (map_eq_pure_bind f _).symm

lemma run_pure (x : α) : (pure x : Procedure σ α).run resolve = pure x := rfl

lemma run_liftM (x : Except Fault α) : (liftM x : Procedure σ α).run resolve = liftM x := rfl

lemma run_ofNode (a : NodeM σ α) : (liftM a : Procedure σ α).run resolve = ToolM.onNode a := rfl

lemma run_outcome (p : Procedure σ α) : p.outcome.run resolve = settled (p.run resolve) :=
  funext fun s => run_andThen resolve p _ s

end Procedure

lemma Emits.onNode {done : α → List Exchange → Prop} {a : NodeM σ α} (h : Emits n id asks done a) :
    Emits n Equipped.node asks done (ToolM.onNode a) := fun s => h s.node

section Command

open ToolRegistry ToolM

variable {r : ToolRegistry σ} {ref : ToolRef} {command : String}

lemma emits_modifyTools (f : ToolCache → ToolCache) :
    Emits n Equipped.node asks (fun _ xs => xs = []) (ToolM.modifyTools f : ToolM σ Unit) :=
  emits_modify (fun s => .refl s.node) (fun _ => rfl) fun _ => rfl

variable (hrelease : .release ∈ asks) (hwhich : .which command ∈ asks)

include hrelease hwhich

lemma emits_provide (inner : ToolRequest → ToolM σ Tool) :
    Emits n Equipped.node asks (fun _ _ => True)
      (r.provide (Tool.commandEntry ref command none) n inner) := by
  refine (Node.emits_os hrelease).onNode.bind fun os _ _ => (emits_liftM _).bind fun seed _ hseed => ?_
  have hmake : Emits n Equipped.node asks
      (fun t _ => ∃ serial, t = (Tool.commandEntry (σ := σ) ref command none).tool serial seed)
      (make (Tool.commandEntry ref command none) seed) := by
    refine emits_get.bind fun s _ _ => (emits_modifyTools _).bind fun _ _ _ => emits_pure ⟨_, rfl⟩
  obtain ⟨hseed, -⟩ := hseed
  cases hseed
  refine hmake.bind fun t _ ht => ?_
  obtain ⟨serial, rfl⟩ := ht
  have hprobe : Emits n Equipped.node asks (fun _ _ => True)
      (probe (Tool.commandEntry ref command none) n inner
        ((Tool.commandEntry (σ := σ) ref command none).tool serial ⟨command, false, .plain⟩)) :=
    (Node.emits_commandExists hwhich).onNode
  refine hprobe.bind fun present _ _ => ?_
  cases present with
  | true => exact emits_pure trivial
  | false => exact emits_throw _

lemma emits_obtain (inner : String → ToolM σ Tool) :
    Emits n Equipped.node asks (fun _ _ => True)
      (r.obtain (Tool.commandEntry ref command none) n inner) := by
  have hnothing : Emits n Equipped.node asks (fun _ _ => True) (resolveAll inner []) :=
    emits_pure trivial
  exact hnothing.bind fun _ _ _ => emits_provide hrelease hwhich _

lemma emits_resolveWith (inner : String → ToolM σ Tool)
    (h : r.find? ref.id = some (Tool.commandEntry ref command none)) :
    Emits n Equipped.node asks (fun _ _ => True) (r.resolveWith n inner ref.id) := by
  intro s
  cases ht : s.tools.find? ref.id with
  | some t =>
    rw [resolveWith_of_cached h ht]
    exact ⟨.refl _, [], Node.leads_of_eq rfl rfl, by simp, fun _ _ => trivial⟩
  | none =>
    by_cases hm : ref.id ∈ s.tools.resolving
    · rw [resolveWith_of_marked h ht hm]
      exact ⟨.refl _, [], Node.leads_of_eq rfl rfl, by simp, fun _ _ => trivial⟩
    · rw [resolveWith_of_fresh h ht hm]
      obtain ⟨hkept, xs, hleads, hsends, -⟩ :=
        emits_obtain (r := r) hrelease hwhich inner { s with tools := s.tools.begin ref.id }
      generalize r.obtain _ n inner _ = out at hkept hleads ⊢
      rcases out with ⟨_ | t, u⟩
      · exact ⟨hkept, xs, hleads, hsends, fun _ _ => trivial⟩
      · exact ⟨hkept, xs, hleads, hsends, fun _ _ => trivial⟩

lemma emits_tool (h : r.find? ref.id = some (Tool.commandEntry ref command none)) :
    Emits n Equipped.node asks (fun _ _ => True) (r.supply (r.resolveById n) (.ofKind ref)) := by
  change Emits n Equipped.node asks _ (r.resolveAs (r.resolveById n) ref)
  rw [resolveAs, h]
  have hsame : ¬ (Tool.commandEntry (σ := σ) ref command none).ref.implementation ≠
    ref.implementation := fun hne => hne rfl
  dsimp only
  rw [if_neg hsame]
  refine (emits_resolveWith hrelease hwhich _ h).bind fun t _ _ => ?_
  split
  · exact emits_throw _
  · exact emits_pure trivial

end Command

namespace Ask

def cat (path : String) : Ask := ⟨true, false, (Shell.quote path).map ("cat " ++ ·)⟩

def read (asRoot : Bool) (path : String) : Ask := ⟨asRoot, false, (Shell.quote path).map ("cat " ++ ·)⟩

def edit (expression file : String) : Ask where
  asRoot := true
  command := do return "sed -i.bak " ++ (← Shell.quote expression) ++ " " ++ (← Shell.quote file)

def control (action name : String) : Ask where
  asRoot := true
  command := (Shell.quote name).map ("systemctl " ++ action ++ " " ++ ·)

def parameter (variableName value : String) : Ask where
  asRoot := true
  command := (Shell.quote (variableName ++ "=" ++ value)).map ("sysctl -w " ++ ·)

end Ask

namespace Node

def ReadsLast (n : Node σ) (path content : String) (xs : List Exchange) : Prop :=
  ∃ ys x output, xs = ys ++ [x] ∧ n.lineOf (.cat path) = .ok x.request.command ∧ x.answer = .ok output ∧
    output.exitCode = 0 ∧ content = trimmed output.stdout

def EndsReading (n : Node σ) (a : Ask) (content : String) (xs : List Exchange) : Prop :=
  ∃ ys x output, xs = ys ++ [x] ∧ n.lineOf a = .ok x.request.command ∧ x.answer = .ok output ∧
    output.exitCode = 0 ∧ content = trimmed output.stdout

lemma EndsReading.append_left {a : Ask} {content : String} {ys : List Exchange}
    (h : n.EndsReading a content ys) (xs : List Exchange) : n.EndsReading a content (xs ++ ys) := by
  obtain ⟨zs, x, output, rfl, h⟩ := h
  exact ⟨xs ++ zs, x, output, by simp, h⟩

lemma ReadsLast.told {path content : String} {xs : List Exchange} (h : n.ReadsLast path content xs) :
    ∃ output, n.Told (.cat path) xs output ∧ output.exitCode = 0 ∧ content = trimmed output.stdout := by
  obtain ⟨ys, x, output, rfl, hline, hanswer, hcode, hcontent⟩ := h
  exact ⟨output, ⟨x, by simp, hline, hanswer⟩, hcode, hcontent⟩

lemma emits_readAs {path : String} {asRoot : Bool} (h : .read asRoot path ∈ asks) :
    Emits n id asks (fun content xs => n.EndsReading (.read asRoot path) content xs)
      (Cat.read n path asRoot true) := by
  refine (emits_liftM _).bind fun arg xs harg => ?_
  obtain ⟨harg, rfl⟩ := harg
  let opts : ExecOptions := { asRoot, forceRun := true, noInfoLog := true }
  have hask : .read asRoot path = (opts.successOr ("failed to read " ++ path)).ask ("cat " ++ arg) := by
    rw [Ask.read, harg]
    rfl
  refine (emits_executeCached (hask ▸ h)).bind fun result ys hresult => emits_pure ?_
  obtain ⟨hforce, -⟩ | ⟨zs, x, rfl, hx⟩ := hresult
  · cases hforce
  · obtain ⟨output, hanswer, rfl⟩ := hx.answer
    exact ⟨zs, x, output, by simp, hask ▸ hx.line, hanswer, hx.code 0 rfl, rfl⟩

lemma emits_readThrough {r : ToolRegistry σ} {path : String} {asRoot : Bool}
    (hcat : r.find? ToolRef.cat.id = some (Tool.commandEntry .cat "cat" none))
    (hasks : [.release, .which "cat", .read asRoot path] ⊆ asks) :
    Emits n Equipped.node asks (n.EndsReading (.read asRoot path)) (r.perform n do
      let _ ← Procedure.tool .cat
      Cat.read n path asRoot true) := by
  obtain ⟨hrelease, hwhich, hread⟩ : .release ∈ asks ∧ .which "cat" ∈ asks ∧ .read asRoot path ∈ asks := by
    simpa using hasks
  unfold ToolRegistry.perform
  rw [Procedure.run_bind]
  refine (emits_tool hrelease hwhich hcat).bind fun _ xs _ => ?_
  exact (emits_readAs hread).onNode.mono (List.Subset.refl _) fun _ _ h => h.append_left xs

lemma emits_read {path : String} (h : .cat path ∈ asks) :
    Emits n id asks (fun content xs => n.ReadsLast path content xs) (Cat.read n path true true) :=
  emits_readAs h

lemma emits_edit {expression file : String} (h : .edit expression file ∈ asks) :
    Emits n id asks (fun _ xs => n.Confirmed (.edit expression file) xs)
      (Sed.edit n expression file true) := by
  refine (emits_liftM _).bind fun expressionArg xs hexpression => ?_
  obtain ⟨hexpression, rfl⟩ := hexpression
  have hask : Ask.edit expression file = ⟨true, false,
      (Shell.quote file).map fun fileArg => "sed -i.bak " ++ expressionArg ++ " " ++ fileArg⟩ := by
    rw [Ask.edit, hexpression]
    cases Shell.quote file <;> rfl
  exact emits_executeQuoted h hask fun _ xs _ hx => emits_pure ((hx.confirmed xs).append_right [])

lemma emits_control {action name : String} (h : .control action name ∈ asks) :
    Emits n id asks (fun _ xs => n.Confirmed (.control action name) xs)
      (Service.control n action name) :=
  emits_executeQuoted h rfl fun _ xs _ hx => emits_pure ((hx.confirmed xs).append_right [])

lemma emits_writeParameter {variableName value : String} (h : .parameter variableName value ∈ asks) :
    Emits n id asks (fun _ xs => n.Confirmed (.parameter variableName value) xs)
      (Sysctl.write n variableName value) :=
  emits_executeQuoted h rfl fun _ xs _ hx => emits_pure ((hx.confirmed xs).append_right [])

end Node

end HostProbe
