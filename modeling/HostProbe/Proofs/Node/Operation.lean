import HostProbe.Node.Basic
import HostProbe.Proofs.Operation

/-! What connecting, closing and running do to the state of a node, and what is left of an operation whose
fault is kept. -/

namespace HostProbe

variable {σ α : Type}

lemma outcome_eq_settled (a : NodeM σ α) : NodeM.outcome a = settled a := by
  funext s
  rw [NodeM.outcome, tryCatch_apply, map_apply, settled]
  rcases a s with ⟨_ | x, t⟩ <;> rfl

namespace Node

open NodeM

variable (n : Node σ)

lemma connect_of_connected {s : NodeState σ} (h : s.connection.done = true) :
    n.connect s = (.ok (), s) := if_pos h

lemma connect_of_not_connected {s : NodeState σ} (h : s.connection.done = false) :
    n.connect s = ((n.transport.connect s.machine).1,
      { s with
        connection := ⟨(n.transport.connect s.machine).1.isOk⟩
        machine := (n.transport.connect s.machine).2
        contacts := s.contacts ++ [.connect]
        clock := s.clock + 1 }) := by
  refine (if_neg (by simp [h])).trans ?_
  have hsetup : (do contact .connect; onMachine n.transport.connect : NodeM σ Unit)
      { s with connection := ⟨true⟩ } = ((n.transport.connect s.machine).1,
        { s with
          connection := ⟨true⟩
          machine := (n.transport.connect s.machine).2
          contacts := s.contacts ++ [.connect]
          clock := s.clock + 1 }) := rfl
  rw [hsetup]
  cases (n.transport.connect s.machine).1 <;> rfl

lemma close_of_connected {s : NodeState σ} (h : s.connection.done = true) :
    n.close s = ((n.transport.close s.machine).1,
      { s with
        connection := .fresh
        results := []
        machine := (n.transport.close s.machine).2
        contacts := s.contacts ++ [.close]
        clock := s.clock + 1 }) := by
  rw [close, bind_of_ok (get_apply s), if_pos h]
  rfl

lemma close_of_not_connected {s : NodeState σ} (h : s.connection.done = false) :
    n.close s = (.ok (), s) := by
  rw [close, bind_of_ok (get_apply s), h]
  rfl

section Within

variable {n} {R : NodeState σ → NodeState σ → Prop} [IsPreorder (NodeState σ) R]

lemma within_connect (h : ∀ s, s.connection.done = false → R s { s with
      connection := ⟨(n.transport.connect s.machine).1.isOk⟩
      machine := (n.transport.connect s.machine).2
      contacts := s.contacts ++ [.connect]
      clock := s.clock + 1 }) : Within R n.connect := by
  intro s
  cases hd : s.connection.done with
  | true =>
    rw [n.connect_of_connected hd]
    exact refl s
  | false =>
    rw [n.connect_of_not_connected hd]
    exact h s hd

lemma within_close (h : ∀ s, s.connection.done = true → R s { s with
      connection := .fresh
      results := []
      machine := (n.transport.close s.machine).2
      contacts := s.contacts ++ [.close]
      clock := s.clock + 1 }) : Within R n.close := by
  intro s
  cases hd : s.connection.done with
  | true =>
    rw [n.close_of_connected hd]
    exact h s hd
  | false =>
    rw [n.close_of_not_connected hd]
    exact refl s

end Within

lemma run_apply (request : CommandRequest) (s : NodeState σ) :
    n.run request s = ((n.transport.run request s.machine).1,
      { s with
        machine := (n.transport.run request s.machine).2
        contacts := s.contacts ++ [.run request]
        clock := s.clock + 1 }) := rfl

end Node

end HostProbe
