import HostProbe.Proofs.Node.Environment
import HostProbe.Proofs.Node.Execute

/-! What a command asks of a node, and the text that its result is stored under. The text is the same
exactly if the question is: the parts before the command can be read back, and the command is the
rest. -/

namespace HostProbe

variable {σ : Type}

structure Question where
  asRoot : Bool
  shell : Bool
  dir : Option String
  value? : String → Option String
  command : String

namespace Node

variable (n : Node σ)

/-- What a command asks: the options come before what is set for the node, and of the definitions of a
variable the last one counts. -/
def question (command : String) (opts : ExecOptions) (s : NodeState σ) : Question where
  asRoot := opts.asRoot || n.alwaysSudo
  shell := opts.shell
  dir := opts.dir.or s.workingDir
  value? name := (opts.env.reverse.lookup name).or (s.env.lookup name)
  command := command

lemma question_eq (command : String) (opts : ExecOptions) (s : NodeState σ) :
    n.question command opts s = ⟨n.usesSudo opts, opts.shell, effectiveDir opts s,
      fun name => (s.env.defineAll opts.env).lookup name, command⟩ := by
  have hdir : effectiveDir opts s = opts.dir.or s.workingDir := by
    rw [effectiveDir]
    cases opts.dir <;> rfl
  simp only [question, usesSudo, hdir, Environment.lookup_defineAll, List.lookup_append]

lemma eq_of_mergedEnv {opts : ExecOptions} {s : NodeState σ} {env : Environment}
    (h : mergedEnv opts s = .ok env) : env = s.env.defineAll opts.env :=
  Environment.eq_of_checked h

lemma resultKey_inj {command command' : String} {opts opts' : ExecOptions} {env env' : Environment}
    {s s' : NodeState σ} :
    n.resultKey command opts env s = n.resultKey command' opts' env' s' ↔
      n.usesSudo opts = n.usesSudo opts' ∧ opts.shell = opts'.shell ∧
      effectiveDir opts s = effectiveDir opts' s' ∧ env.sorted = env'.sorted ∧
      command = command' := by
  constructor
  · intro h
    have htext := congrArg String.toList h
    simp only [resultKey, String.toList_append, List.append_assoc] at htext
    obtain ⟨hsudo, htext⟩ := Text.selfDelimiting_bool _ _ _ _ htext
    obtain ⟨hshell, htext⟩ := Text.selfDelimiting_bool _ _ _ _ (List.append_cancel_left htext)
    obtain ⟨hdir, htext⟩ := Text.selfDelimiting_quotedOption _ _ _ _ (List.append_cancel_left htext)
    obtain ⟨henv, htext⟩ :=
      Environment.selfDelimiting_shown _ _ _ _ (List.append_cancel_left htext)
    exact ⟨hsudo, hshell, hdir, henv, String.toList_inj.mp (List.append_cancel_left htext)⟩
  · rintro ⟨hsudo, hshell, hdir, henv, hcommand⟩
    rw [resultKey, hsudo, hshell, hdir, henv, hcommand]
    rfl

theorem resultKey_eq_iff_question {command command' : String} {opts opts' : ExecOptions}
    {env env' : Environment} {s s' : NodeState σ} (hs : (Environment.names s.env).Nodup)
    (hs' : (Environment.names s'.env).Nodup) (h : mergedEnv opts s = .ok env)
    (h' : mergedEnv opts' s' = .ok env') :
    n.resultKey command opts env s = n.resultKey command' opts' env' s' ↔
      n.question command opts s = n.question command' opts' s' := by
  rw [resultKey_inj, eq_of_mergedEnv h, eq_of_mergedEnv h',
    Environment.sorted_eq_iff (Environment.nodup_defineAll hs _) (Environment.nodup_defineAll hs' _)]
  simp only [question_eq, Question.mk.injEq, funext_iff]

end Node

end HostProbe
