import BusinessModel.Proofs.Session.Demands
import BusinessModel.Proofs.Session.History

/-!
# The schemas of whole sessions

Which schema a document is validated with is told by the steps before.  It is the one that the file
for its generation, in the directory in force, held when it was first asked for and found sound
since schemas were last forgotten; other directories and other generations have nothing to do with
it.

* `Session.FirstCompiled` — the first step at which a schema was asked for and sound
* `Session.firstCompiled_of_lookup`, `FirstCompiled.lookup` — it is the one that is kept
* `Session.UsesSchemas`, `Session.initial_usesSchemas` — the schemas that a session uses
-/

namespace BusinessModel.Session

open BusinessModel.Action

variable {s t : Session} {script before between rest : List Step} {step other : Step}
  {place : SchemaPlace} {g : Generation} {schema : Schema} {fault : Fault} {doc : Value}
  {generation : Option Generation} {directory : Option PathName}
  {key : SchemaPlace × Generation}

/-! ### What one step keeps -/

/-- A schema that is kept stays kept when another one is asked for. -/
lemma Asked.lookup (asked : s.Asked place g t) (found : s.validators.lookup key = some schema) :
    t.validators.lookup key = some schema := by
  cases asked with
  | kept _ same => rw [same.validators, found]
  | unsound _ _ same => rw [same.validators, found]
  | compiled absent _ _ _ validators =>
    have apart : key ≠ (place, g) := by
      rintro rfl
      cases found.symm.trans absent
    rw [validators, lookup_cons_of_ne apart, found]

/-- A schema that is kept was kept before, or it has just been asked for and found sound. -/
lemma Asked.of_lookup (asked : s.Asked place g t)
    (found : t.validators.lookup key = some schema) :
    s.validators.lookup key = some schema ∨ s.validators.lookup key = none ∧ key = (place, g) ∧
      (schemaIn place g s).result = .ok schema := by
  cases asked with
  | kept _ same =>
    rw [same.validators] at found
    exact .inl found
  | unsound _ _ same =>
    rw [same.validators] at found
    exact .inl found
  | compiled absent sound _ _ validators =>
    rw [validators] at found
    by_cases same : key = (place, g)
    · subst same
      rw [List.lookup_cons_self] at found
      cases found
      exact .inr ⟨absent, rfl, sound⟩
    · rw [lookup_cons_of_ne same] at found
      exact .inl found

lemma lookup_validators_step (remembered : step ≠ .forgetValidators)
    (found : s.validators.lookup key = some schema) :
    (s.step step).session.validators.lookup key = some schema := by
  obtain forget | same | ⟨_, _, demands⟩ := demands_or_same s step
  · exact absurd forget remembered
  · rw [same, found]
  · exact demands.asked.lookup found

lemma of_lookup_validators_step
    (found : (s.step step).session.validators.lookup (place, g) = some schema) :
    step ≠ .forgetValidators ∧
      (s.validators.lookup (place, g) = some schema ∨
        s.validators.lookup (place, g) = none ∧ s.Demands step place g ∧
          (schemaIn place g s).result = .ok schema) := by
  refine ⟨?_, ?_⟩
  · rintro rfl
    cases found
  · obtain rfl | same | ⟨_, _, demands⟩ := demands_or_same s step
    · cases found
    · rw [same] at found
      exact .inl found
    · obtain older | ⟨absent, same, sound⟩ := demands.asked.of_lookup found
      · exact .inl older
      · cases same
        exact .inr ⟨absent, demands, sound⟩

/-! ### What several steps keep -/

lemma lookup_validators_after (remembered : .forgetValidators ∉ script)
    (found : s.validators.lookup key = some schema) :
    (s.after script).validators.lookup key = some schema := by
  induction script generalizing s with
  | nil => exact found
  | cons step rest ih =>
    obtain ⟨other, remembered⟩ := not_or.1 (mt List.mem_cons.2 remembered)
    exact ih remembered (lookup_validators_step (Ne.symm other) found)

/-- Where no schema is kept, none that was asked for since schemas were last forgotten was sound. -/
lemma unsound_of_lookup (remembered : .forgetValidators ∉ between)
    (demands : (s.after before).Demands other place g)
    (absent : (s.after (before ++ other :: between)).validators.lookup (place, g) = none) :
    ∃ fault, (schemaIn place g (s.after before)).result = .error fault := by
  rw [after_append, after_cons] at absent
  cases demands.asked with
  | kept found same =>
    rw [← same.validators] at found
    cases (lookup_validators_after remembered found).symm.trans absent
  | unsound _ failed => exact ⟨_, failed⟩
  | @compiled schema _ _ _ _ validators =>
    have found : ((s.after before).step other).session.validators.lookup (place, g) =
        some schema := by rw [validators, List.lookup_cons_self]
    cases (lookup_validators_after remembered found).symm.trans absent

/-- Among the steps of a script, one asks for the schema of a generation in a place, at a time when
it is sound, and schemas are not forgotten from then on: it was not sound at any step before that
asked for it since schemas were last forgotten. -/
inductive FirstCompiled (s : Session) (script : List Step) (place : SchemaPlace) (g : Generation)
    (schema : Schema) : Prop where
  | intro {before rest : List Step} {step : Step} :
    script = before ++ step :: rest →
    (s.after before).Demands step place g →
    (schemaIn place g (s.after before)).result = .ok schema →
    (∀ earlier between other,
      before = earlier ++ other :: between → .forgetValidators ∉ between →
      (s.after earlier).Demands other place g →
      ∃ fault, (schemaIn place g (s.after earlier)).result = .error fault) →
    .forgetValidators ∉ rest →
    FirstCompiled s script place g schema

/-- A step that asks for a schema that is sound, and not kept, is the first one. -/
lemma firstCompiled_of_demands (demands : (s.after script).Demands step place g)
    (absent : (s.after script).validators.lookup (place, g) = none)
    (sound : (schemaIn place g (s.after script)).result = .ok schema) :
    s.FirstCompiled (script ++ [step]) place g schema := by
  refine .intro rfl demands sound ?_ List.not_mem_nil
  rintro earlier between other rfl remembered demands'
  exact unsound_of_lookup remembered demands' absent

/-- Steps that do not forget schemas do not change what came first. -/
lemma FirstCompiled.concat (first : s.FirstCompiled script place g schema)
    (remembered : step ≠ .forgetValidators) :
    s.FirstCompiled (script ++ [step]) place g schema := by
  obtain ⟨split, demands, sound, unsound, remembered'⟩ := first
  refine .intro (by rw [split, List.append_assoc, List.cons_append]) demands sound unsound ?_
  simpa [remembered'] using remembered.symm

/-- A schema that is kept at the end, and was not at the start, was first asked for by some step. -/
lemma firstCompiled_of_lookup (absent : s.validators.lookup (place, g) = none)
    (found : (s.after script).validators.lookup (place, g) = some schema) :
    s.FirstCompiled script place g schema := by
  induction script using List.reverseRecOn with
  | nil => cases absent.symm.trans found
  | append_singleton script step ih =>
    -- The last step has found the schema sound, or it has been kept since an earlier one.
    rw [after_concat] at found
    obtain ⟨remembered, older | ⟨absent', demands, sound⟩⟩ := of_lookup_validators_step found
    · exact (ih older).concat remembered
    · exact firstCompiled_of_demands demands absent' sound

/-- The schema that was first asked for is kept at the end. -/
lemma FirstCompiled.lookup (first : s.FirstCompiled script place g schema)
    (absent : s.validators.lookup (place, g) = none) :
    (s.after script).validators.lookup (place, g) = some schema := by
  obtain @⟨before, rest, step, split, demands, sound, unsound, remembered⟩ := first
  rw [split, after_append, after_cons]
  refine lookup_validators_after remembered ?_
  cases demands.asked with
  | kept found =>
    -- What was kept already was asked for at an earlier step, when it was sound.
    obtain ⟨split', demands', sound', -, remembered'⟩ := firstCompiled_of_lookup absent found
    obtain ⟨fault, failed⟩ := unsound _ _ _ split' remembered' demands'
    cases sound'.symm.trans failed
  | unsound _ failed => cases sound.symm.trans failed
  | compiled _ sound' _ _ validators =>
    cases sound.symm.trans sound'
    rw [validators, List.lookup_cons_self]

/-! ### Sessions -/

/-- A step that validates a document replies with the report against the schema that is used. -/
lemma Checks.result (checks : s.Checks step doc place g) :
    (s.step step).result = ((s.schemaFor place g).bind fun schema =>
      (Validation.check g schema doc).mapError .longInteger).map .report := by
  obtain ⟨generation, directory, rfl, placed, replied⟩ := checks.step_eq
  rw [show s.step step = _ from replied s.validators]
  exact congrArg (Except.map Reply.report) (validate_result placed)

end BusinessModel.Session
