import HostProbe.Proofs.Association
import HostProbe.Tool.Basic

/-! The tools of a node, by what can be seen of them: the tool of an id, and the marks. -/

namespace HostProbe.ToolCache

variable {c : ToolCache} {x id : String} {t u : Tool}

@[simp] lemma find?_erase_self : (c.erase id).find? id = none := Association.lookup_filter_self

lemma find?_erase_of_ne (h : x ≠ id) : (c.erase id).find? x = c.find? x :=
  Association.lookup_filter_of_ne h

@[simp] lemma find?_insert_self : (c.insert id t).find? id = some t := List.lookup_cons_self

lemma find?_insert_of_ne (h : x ≠ id) : (c.insert id t).find? x = c.find? x :=
  (Association.lookup_cons_of_ne h).trans (find?_erase_of_ne h)

@[simp] lemma find?_begin : (c.begin id).find? x = c.find? x := rfl

@[simp] lemma find?_finish : (c.finish id).find? x = c.find? x := rfl

lemma contains_iff : c.contains x = true ↔ ∃ t, c.find? x = some t := Option.isSome_iff_exists

lemma not_contains_iff : ¬ c.contains x = true ↔ c.find? x = none := by
  simp [contains]

lemma contains_congr {d : ToolCache} (h : c.find? x = d.find? x) : c.contains x = d.contains x := by
  rw [contains, contains, h]

lemma finish_resolving (h : id ∉ c.resolving) {d : ToolCache}
    (hd : d.resolving = (c.begin id).resolving) : (d.finish id).resolving = c.resolving := by
  have hf : c.resolving.filter (· ≠ id) = c.resolving :=
    List.filter_eq_self.mpr fun y hy => by simpa using fun hyid : y = id => h (hyid ▸ hy)
  simp only [finish, hd, begin]
  rw [List.filter_cons_of_neg (by simp), hf]

end HostProbe.ToolCache
