import HostProbe.Package.Kind

/-! # Packages that a manager does not know

A package manager names the packages that it cannot find in phrases of its own. Its output is
searched from the left for these phrases; what follows a phrase is searched on. -/

namespace HostProbe.Package

open HostProbe.Text

structure Phrase where
  lead : String
  tail : String
  deriving DecidableEq, Repr

def phrases : PackageKind → List Phrase
  | .apt => [⟨"Unable to locate package ", ""⟩, ⟨"Package '", "' has no installation candidate"⟩]
  | .dnf => [⟨"No match for argument: ", ""⟩, ⟨"No package ", ""⟩]
  | .yum => [⟨"No match for argument: ", ""⟩, ⟨"No package ", ""⟩]
  | .zypper => [⟨"'", "' not found in package names"⟩, ⟨"No provider of '", "'"⟩]

def isNameChar (c : Char) : Bool :=
  c.isAlphanum || c == '+' || c == '.' || c == '_' || c == ':' || c == '-'

def Phrase.match? (p : Phrase) (s : List Char) : Option (List Char × List Char) := do
  let afterLead ← dropStart? p.lead.toList s
  let name := afterLead.takeWhile isNameChar
  if name.isEmpty then none
  else
    let rest ← dropStart? p.tail.toList (afterLead.dropWhile isNameChar)
    some (name, rest)

theorem length_of_dropStart? {pre s rest : List Char} (h : dropStart? pre s = some rest) :
    s.length = pre.length + rest.length := by
  induction pre generalizing s with
  | nil => simp_all [dropStart?]
  | cons p pre ih =>
    cases s with
    | nil => simp [dropStart?] at h
    | cons c s =>
      by_cases hc : p = c
      · simp [dropStart?, hc] at h
        simp [ih h]; omega
      · simp [dropStart?, hc] at h

theorem Phrase.length_of_match? {p : Phrase} {s name rest : List Char}
    (h : p.match? s = some (name, rest)) : rest.length < s.length := by
  simp only [Phrase.match?, Option.bind_eq_bind, Option.bind_eq_some_iff] at h
  obtain ⟨afterLead, hLead, h⟩ := h
  split at h
  · simp at h
  · rename_i hName
    obtain ⟨r, hTail, h⟩ := Option.bind_eq_some_iff.1 h
    simp only [Option.some.injEq, Prod.mk.injEq] at h
    obtain ⟨-, rfl⟩ := h
    have h1 := length_of_dropStart? hLead
    have h2 := length_of_dropStart? hTail
    have h3 := congrArg List.length
      (List.takeWhile_append_dropWhile (p := isNameChar) (l := afterLead))
    have h4 : 0 < (afterLead.takeWhile isNameChar).length := by
      cases h5 : afterLead.takeWhile isNameChar with
      | nil => simp [h5] at hName
      | cons c cs => simp
    simp only [List.length_append] at h3
    omega

def named (ps : List Phrase) (s : List Char) : List (List Char) :=
  match s with
  | [] => []
  | c :: cs =>
    match _h : ps.findSome? fun p => p.match? (c :: cs) with
    | some (name, rest) => name :: named ps rest
    | none => named ps cs
termination_by s.length
decreasing_by
  · obtain ⟨p, -, hp⟩ := List.exists_of_findSome?_eq_some _h
    exact Phrase.length_of_match? hp
  · simp

def firsts (xs : List String) : List String :=
  xs.foldl (fun seen x => if x ∈ seen then seen else seen ++ [x]) []

def unknownPackages (kind : PackageKind) (output : String) (requested : List String) :
    List String :=
  firsts (((named (phrases kind) output.toList).map String.ofList).filter (· ∈ requested))

end HostProbe.Package
