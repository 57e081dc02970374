import HostProbe.Proofs.Node.Execute

/-! A node with something kept beside its machine. What an operation of the node does to its state it
does there too, and what is beside the machine stays as it is. -/

namespace HostProbe

variable {σ ρ α β : Type}

def Transport.beside (way : Transport σ) : Transport (σ × ρ) where
  describe := way.describe
  isRemote := way.isRemote
  connect m :=
    let (r, machine) := way.connect m.1
    (r, machine, m.2)
  run request m :=
    let (r, machine) := way.run request m.1
    (r, machine, m.2)
  close m :=
    let (r, machine) := way.close m.1
    (r, machine, m.2)

def Node.beside (n : Node σ) : Node (σ × ρ) where
  name := n.name
  transport := n.transport.beside
  timeoutMs := n.timeoutMs
  alwaysSudo := n.alwaysSudo

def NodeState.beside (s : NodeState σ) (x : ρ) : NodeState (σ × ρ) :=
  { s with machine := (s.machine, x) }

def NodeState.alone (s : NodeState (σ × ρ)) : NodeState σ := { s with machine := s.machine.1 }

namespace NodeM

def beside (a : NodeM σ α) : NodeM (σ × ρ) α := fun s =>
  let (r, t) := a s.alone
  (r, t.beside s.machine.2)

lemma beside_apply (a : NodeM σ α) (s : NodeState (σ × ρ)) :
    a.beside s = ((a s.alone).1, (a s.alone).2.beside s.machine.2) := rfl

lemma beside_bind (a : NodeM σ α) (f : α → NodeM σ β) :
    (a >>= f).beside (ρ := ρ) = a.beside >>= fun x => (f x).beside := by
  funext s
  rw [beside_apply, bind_apply, bind_apply, beside_apply]
  rcases a s.alone with ⟨_ | x, t⟩ <;> rfl

lemma beside_get_bind (f : NodeState σ → NodeM σ α) :
    ((get : NodeM σ (NodeState σ)) >>= f).beside (ρ := ρ) = get >>= fun s => (f s.alone).beside := by
  rw [beside_bind]
  rfl

lemma beside_ite {p : Prop} [Decidable p] (a b : NodeM σ α) :
    (if p then a else b).beside (ρ := ρ) = if p then a.beside else b.beside := by
  split <;> rfl

end NodeM

namespace Node

open NodeM

variable (n : Node σ)

lemma connect_beside : n.beside.connect = n.connect.beside (ρ := ρ) := by
  funext s
  rw [beside_apply]
  cases hdone : s.connection.done with
  | true => rw [connect_of_connected _ hdone, n.connect_of_connected (s := s.alone) hdone]; rfl
  | false => rw [connect_of_not_connected _ hdone, n.connect_of_not_connected (s := s.alone) hdone]; rfl

lemma run_beside (q : CommandRequest) : n.beside.run q = (n.run q).beside (ρ := ρ) := by
  rw [run, run, beside_bind]
  rfl

lemma supportsSudo_beside : n.beside.supportsSudo = n.supportsSudo.beside (ρ := ρ) := by
  unfold supportsSudo
  rw [beside_get_bind]
  refine bind_congr fun s => ?_
  have hknown : s.alone.sudoSupported = s.sudoSupported := rfl
  rw [hknown]
  cases s.sudoSupported with
  | some supported => rfl
  | none =>
    simp only [beside_bind, connect_beside, run_beside]
    rfl

lemma prepare_beside (command : String) (opts : ExecOptions) :
    n.beside.prepare command opts = (n.prepare command opts).beside (ρ := ρ) := by
  unfold prepare
  simp only [beside_ite, beside_bind, supportsSudo_beside]
  rfl

lemma request_beside (command : String) (opts : ExecOptions) :
    n.beside.request command opts = (n.request command opts).beside (ρ := ρ) := by
  unfold request
  simp only [beside_bind, connect_beside, prepare_beside]
  rfl

lemma logRequest_beside (opts : ExecOptions) (q : CommandRequest) :
    n.beside.logRequest opts q = (n.logRequest opts q).beside (ρ := ρ) := by
  unfold logRequest
  rw [beside_ite]
  rfl

lemma logFailure_beside (opts : ExecOptions) (q : CommandRequest) (result : ExecutionResult) :
    n.beside.logFailure opts q result = (n.logFailure opts q result).beside (ρ := ρ) := by
  unfold logFailure
  rw [beside_ite]
  rfl

lemma execute_beside (command : String) (opts : ExecOptions) :
    n.beside.execute command opts = (n.execute command opts).beside (ρ := ρ) := by
  rw [execute_eq, execute_eq, beside_bind, request_beside]
  refine bind_congr fun q => ?_
  unfold send
  simp only [beside_bind, logRequest_beside, run_beside, logFailure_beside]
  rfl

lemma os_beside : n.beside.os = n.os.beside (ρ := ρ) := by
  unfold os detectOs
  rw [beside_get_bind]
  refine bind_congr fun s => ?_
  have hknown : s.alone.os = s.os := rfl
  rw [hknown]
  cases s.os with
  | some os => rfl
  | none =>
    simp only [beside_ite, beside_bind, execute_beside]
    rfl

end Node

end HostProbe
