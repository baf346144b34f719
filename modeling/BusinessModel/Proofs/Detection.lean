import BusinessModel.Proofs.Schema.Document

/-!
# Detected generations and valid documents

Detection reads the generation of a document off its `version` or else off the shape of its
sections, by a table of fields that is kept apart from the schemas.  The fields that the table looks
for in the entries of one generation are no fields of the other, so the shape of a valid document
never tells a generation that it is not of.

* `Generation.sectionSignal_eq` — the sections of a valid document signal its own generation
* `Generation.ofShape?_eq_v2_iff` — when the shape of a valid document tells the second generation
* `Generation.detect_valid` — detection and validation agree
-/

namespace BusinessModel

open Grammar

/-- The mapping without a text key. -/
def Mapping.without (m : Mapping) (name : String) : Mapping :=
  m.filter fun member => member.1 != .str name

/-- The value without a member, if it is a mapping. -/
def Value.without : Value → String → Value
  | .map m, name => .map (Mapping.without m name)
  | v, _ => v

namespace Mapping

variable {m : Mapping} {name key : String}

/-- Nothing is left under a key that was taken out. -/
lemma get?_without_self : get? (without m name) name = none := by
  rw [get?, List.lookup_eq_none_iff]
  intro member listed
  have kept := (List.mem_filter.1 listed).2
  simpa [bne_comm] using kept

/-- Taking a key out leaves the others alone. -/
lemma get?_without (other : key ≠ name) : get? (without m name) key = get? m key := by
  induction m with
  | nil => rfl
  | cons member rest ih =>
    obtain ⟨k, v⟩ := member
    unfold get? without at *
    rw [List.filter_cons, List.lookup_cons]
    by_cases same : k = .str name
    · have passed : (Scalar.str key == .str name) = false := by simpa using other
      simp only [same, bne_self_eq_false, Bool.false_eq_true, if_false, passed, ih]
    · have kept : (k != .str name) = true := by simpa using same
      rw [if_pos kept, List.lookup_cons, ih]

lemma get_without (other : key ≠ name) : get (without m name) key = get m key :=
  congrArg (·.getD .null) (get?_without other)

end Mapping

namespace Generation

variable {m : Mapping} {g told : Generation} {row : String × List String}

/-- Fields that entries of the other generation have, where detection looks for them. -/
def foreignFields : Generation → String × List String → List String
  | .v1, _ => relationFields
  | .v2, row => row.2

/-- Every section that detection looks at has entries without foreign fields. -/
lemma exists_entryFields (listed : row ∈ flatFields) :
    ∃ fields, (row.1, fields) ∈ entryFields g ∧
      ∀ name ∈ foreignFields g row, name ∉ fields.map (·.name) := by
  have known : ∀ row ∈ flatFields, row.1 ∈ (entryFields g).map (·.1) := by
    cases g <;> decide
  have apart : ∀ row ∈ flatFields, ∀ entry ∈ entryFields g, entry.1 = row.1 →
      ∀ name ∈ foreignFields g row, name ∉ entry.2.map (·.name) := by
    cases g <;> decide
  obtain ⟨⟨key, fields⟩, member, same⟩ := List.mem_map.1 (known row listed)
  cases same
  exact ⟨fields, member, apart row listed _ member rfl⟩

/-- What the sections of a valid document signal is its own generation. -/
lemma sectionSignal_eq (h : Conforms (documentFields g) m) (listed : row ∈ flatFields)
    (signal : sectionSignal m row = some told) : told = g := by
  obtain ⟨fields, described, apart⟩ := exists_entryFields (g := g) listed
  -- A foreign field of the first entry would be one of the fields of its section.
  have absent : ∀ first rest, (Mapping.get m row.1).asList = .map first :: rest →
      ∀ name ∈ foreignFields g row, Mapping.hasKey first name = false := by
    intro first rest shape name foreign
    obtain ⟨_, same, conforms⟩ := isRecord_of_mem_asList h described (shape ▸ List.mem_cons_self)
    cases same
    by_contra has
    exact apart name foreign (conforms.mem_names (by simpa using has))
  unfold sectionSignal at signal
  split at signal
  next first rest shape =>
    have none := absent first rest shape
    split at signal
    next relations =>
      cases signal
      -- Relations are foreign to the first generation, flat fields to the second.
      cases g with
      | v1 =>
        obtain ⟨name, foreign, has⟩ := List.any_eq_true.1 relations
        exact absurd has (by simp [none name foreign])
      | v2 => rfl
    next =>
      split at signal
      next flat =>
        cases signal
        cases g with
        | v1 => rfl
        | v2 =>
          obtain ⟨name, foreign, has⟩ := List.any_eq_true.1 flat
          exact absurd has (by simp [none name foreign])
      next => cases signal
  next => cases signal

/-- The section in which the other generation has its costs. -/
def foreignCosts : Generation → String
  | .v1 => "costs"
  | .v2 => "cost_structure"

/-- A valid document has no costs of the other generation. -/
lemma get?_foreignCosts (h : Conforms (documentFields g) m) :
    Mapping.get? m (foreignCosts g) = none := by
  have apart : foreignCosts g ∉ (documentFields g).map (·.name) := by
    cases g <;> decide
  by_contra found
  exact apart (h.mem_names (Option.isSome_iff_ne_none.2 found))

/-- A document of the second generation has no cost structure. -/
lemma isMapping_structure (h : Conforms (documentFields .v2) m) :
    (Mapping.get m "cost_structure").isMapping = false := by
  have foreign : Mapping.get? m "cost_structure" = none := get?_foreignCosts h
  simp [Mapping.get, foreign, Value.isMapping]

/-- What the shape of a valid document tells is its own generation. -/
lemma ofShape?_eq (h : Conforms (documentFields g) m) (tells : ofShape? m = some told) :
    told = g := by
  unfold ofShape? at tells
  split at tells
  next costs =>
    cases tells
    cases g with
    | v1 =>
      have foreign : Mapping.get? m "costs" = none := get?_foreignCosts h
      simp [Mapping.get, foreign, Value.isList] at costs
    | v2 => rfl
  next =>
    split at tells
    next structured =>
      cases tells
      cases g with
      | v1 => rfl
      | v2 => simp [isMapping_structure h] at structured
    next =>
      obtain ⟨row, listed, signal⟩ := List.exists_of_findSome?_eq_some tells
      exact sectionSignal_eq h listed signal

/-- A section signals the second generation if its first entry has a relation. -/
lemma sectionSignal_eq_v2_iff :
    sectionSignal m row = some .v2 ↔
      ∃ first rest, (Mapping.get m row.1).asList = .map first :: rest ∧
        (Mapping.hasKey first "for" = true ∨ Mapping.hasKey first "from" = true) := by
  have relations : ∀ first, relationFields.any (Mapping.hasKey first) = true ↔
      Mapping.hasKey first "for" = true ∨ Mapping.hasKey first "from" = true := by
    simp [relationFields]
  unfold sectionSignal
  split
  next first rest shape =>
    rw [shape]
    simp only [List.cons.injEq, Value.map.injEq, ← relations]
    split
    next has => exact iff_of_true rfl ⟨first, rest, ⟨rfl, rfl⟩, has⟩
    next hasNot =>
      refine iff_of_false (by split <;> simp) ?_
      rintro ⟨_, _, ⟨rfl, rfl⟩, has⟩
      exact hasNot has
  next other =>
    refine iff_of_false nofun ?_
    rintro ⟨first, rest, shape, _⟩
    exact other first rest shape

/-- A document shows flat fields: it has a cost structure, or some section signals the first
generation. -/
def ShowsFlatFields (m : Mapping) : Prop :=
  (Mapping.get m "cost_structure").isMapping = true ∨
    ∃ row ∈ flatFields, sectionSignal m row = some .v1

/-- A document shows relations: it has costs, or fits, or the first entry of another section refers
to something. -/
def ShowsRelations (m : Mapping) : Prop :=
  Mapping.hasKey m "costs" = true ∨ (Mapping.get m "fits").asList ≠ [] ∨
    ∃ key ∈ ["channels", "customer_relationships", "revenue_streams", "key_resources",
      "key_partnerships"],
      ∃ first rest, (Mapping.get m key).asList = .map first :: rest ∧
        (Mapping.hasKey first "for" = true ∨ Mapping.hasKey first "from" = true)

/-- Fits of the second generation signal it, for each of them has relations. -/
lemma sectionSignal_fits (h : Conforms (documentFields .v2) m) {flat : List String} :
    sectionSignal m ("fits", flat) = some .v2 ↔ (Mapping.get m "fits").asList ≠ [] := by
  rw [sectionSignal_eq_v2_iff]
  refine ⟨?_, ?_⟩
  · rintro ⟨first, rest, shape, _⟩
    rw [shape]
    exact List.cons_ne_nil _ _
  · intro nonempty
    obtain ⟨x, rest, shape⟩ := List.exists_cons_of_ne_nil nonempty
    have isFit : ("fits", Typed.fit) ∈ entryFields .v2 := by simp [entryFields]
    obtain ⟨fit, rfl, conforms⟩ := isRecord_of_mem_asList h isFit (shape ▸ List.mem_cons_self)
    have relations := conforms.needed (needs "for" (IsRecord Typed.fitReferences))
      (by simp [Typed.fit]) rfl
    exact ⟨fit, rest, shape, .inl (Option.isSome_iff_exists.2 relations)⟩

/-- Costs of the second generation are a list wherever they are. -/
lemma isList_costs_iff (h : Conforms (documentFields .v2) m) :
    (Mapping.get m "costs").isList = true ↔ Mapping.hasKey m "costs" = true := by
  unfold Mapping.hasKey Mapping.get
  cases found : Mapping.get? m "costs" with
  | none => simp [Value.isList]
  | some v =>
    have listed : ("costs", Typed.linked .cost [("for", [Typed.toResources, Typed.toActivities])]) ∈
        entryFields .v2 := by simp [entryFields]
    obtain ⟨xs, rfl, _⟩ := h.form _ (mem_documentFields listed) v found
    simp [Value.isList]

/-- The shape of a valid document tells the second generation if it shows relations. -/
lemma ofShape?_eq_v2_iff (h : Conforms (documentFields .v2) m) :
    ofShape? m = some .v2 ↔ ShowsRelations m := by
  have sections : flatFields.findSome? (sectionSignal m) = some .v2 ↔
      ∃ row ∈ flatFields, sectionSignal m row = some .v2 := by
    refine ⟨List.exists_of_findSome?_eq_some, ?_⟩
    rintro ⟨row, listed, signal⟩
    cases tells : flatFields.findSome? (sectionSignal m) with
    | none => simp [List.findSome?_eq_none_iff.1 tells row listed] at signal
    | some told =>
      -- An earlier section may tell first, but it tells the same.
      obtain ⟨row', listed', signal'⟩ := List.exists_of_findSome?_eq_some tells
      rw [sectionSignal_eq h listed' signal']
  have rows : (∃ row ∈ flatFields, sectionSignal m row = some .v2) ↔
      (Mapping.get m "fits").asList ≠ [] ∨
        ∃ key ∈ ["channels", "customer_relationships", "revenue_streams", "key_resources",
          "key_partnerships"],
          ∃ first rest, (Mapping.get m key).asList = .map first :: rest ∧
            (Mapping.hasKey first "for" = true ∨ Mapping.hasKey first "from" = true) := by
    rw [flatFields, List.exists_mem_cons_iff, sectionSignal_fits h]
    simp only [List.exists_mem_cons_iff, sectionSignal_eq_v2_iff, List.not_mem_nil, false_and,
      exists_false]
  rw [ShowsRelations, ← isList_costs_iff h, ← rows, ← sections, ofShape?, isMapping_structure h]
  split
  next costs => simp [costs]
  next noCosts => simp [noCosts]

/-! ### Documents without a version -/

lemma sectionSignal_without {name : String} (other : row.1 ≠ name) :
    sectionSignal (Mapping.without m name) row = sectionSignal m row := by
  unfold sectionSignal
  rw [Mapping.get_without other]

/-- The shape of a document does not depend on its version. -/
lemma ofShape?_without : ofShape? (Mapping.without m "version") = ofShape? m := by
  simp (disch := decide) only [ofShape?, flatFields, Mapping.get_without, sectionSignal_without,
    List.findSome?_cons, List.findSome?_nil]

/-- Without a version, only the shape of a document tells its generation. -/
lemma stated?_without :
    stated? (Mapping.get (Mapping.without m "version") "version") = none := by
  rw [Mapping.get, Mapping.get?_without_self]
  rfl

lemma detectedByShape?_without :
    detectedByShape? (.map (Mapping.without m "version")) = ofShape? m := by
  rw [detectedByShape?, stated?_without]
  exact ofShape?_without

lemma detect_without :
    detect (.map (Mapping.without m "version")) = (ofShape? m).getD .v1 := by
  rw [detect, stated?_without]
  exact congrArg (·.getD .v1) ofShape?_without


/-! ### Detection and validation -/

open Validation (Accepts)

/-- The version of a document states its generation. -/
lemma stated?_version (h : Conforms (documentFields g) m) :
    stated? (Mapping.get m "version") = some g := by
  have field : needs "version" (· = .str g.discriminator) ∈ documentFields g := List.mem_cons_self
  obtain ⟨_, found⟩ := h.needed _ field rfl
  cases h.form _ field _ found
  unfold Mapping.get
  rw [show Mapping.get? m "version" = some (.str g.discriminator) from found]
  cases g <;> rfl

lemma detect_eq_of_accepts {value : Value} (h : Accepts value (some g)) : detect value = g := by
  obtain ⟨m, rfl, conforms⟩ : IsDocument g value := Validation.accepts_iff.1 h
  rw [detect, stated?_version conforms]

/-- A document of the second generation shows no flat fields. -/
lemma not_showsFlatFields (h : Conforms (documentFields .v2) m) : ¬ShowsFlatFields m := by
  rintro (structured | ⟨row, listed, signal⟩)
  · exact absurd structured (by simp [isMapping_structure h])
  · exact absurd (sectionSignal_eq h listed signal) nofun

lemma showsFlatFields_without :
    ShowsFlatFields (Mapping.without m "version") ↔ ShowsFlatFields m := by
  simp (disch := decide) only [ShowsFlatFields, flatFields, Mapping.get_without,
    List.exists_mem_cons_iff, sectionSignal_without, List.not_mem_nil, false_and, exists_false]

/-- A document of the second generation that shows no relations tells nothing by its shape. -/
lemma ofShape?_eq_none (h : Conforms (documentFields .v2) m) (shows : ¬ShowsRelations m) :
    ofShape? m = none := by
  cases tells : ofShape? m with
  | none => rfl
  | some told =>
    cases ofShape?_eq h tells
    exact absurd ((ofShape?_eq_v2_iff h).1 tells) shows

/-- Detection finds the generation under which a document is valid, so there is one at most, and
validation loses nothing by detecting it.  Without its version a document of the first generation is
still detected, and one of the second generation shows no flat fields and is detected exactly if it
shows relations. -/
theorem detect_valid (value : Value) :
    (∀ g, Accepts value (some g) → detect value = g) ∧
      ¬(Accepts value (some .v1) ∧ Accepts value (some .v2)) ∧
      (Accepts value none ↔ ∃ g, Accepts value (some g)) ∧
      (Accepts value (some .v1) → detect (value.without "version") = .v1) ∧
      (Accepts value (some .v2) →
        ¬ShowsFlatFields (value.without "version").asMapping ∧
          (detect (value.without "version") = .v2 ↔ ShowsRelations value.asMapping) ∧
          (¬ShowsRelations value.asMapping →
            detectedByShape? (value.without "version") = none ∧
              detect (value.without "version") = .v1)) := by
  refine ⟨fun g => detect_eq_of_accepts, ?_, ?_, ?_, ?_⟩
  · rintro ⟨flat, typed⟩
    exact absurd ((detect_eq_of_accepts flat).symm.trans (detect_eq_of_accepts typed)) nofun
  · refine ⟨fun accepted => ⟨detect value, accepted⟩, ?_⟩
    rintro ⟨g, accepted⟩
    rw [← detect_eq_of_accepts accepted] at accepted
    exact accepted
  · intro accepted
    obtain ⟨m, rfl, conforms⟩ : IsDocument .v1 value := Validation.accepts_iff.1 accepted
    rw [Value.without, detect_without]
    cases tells : ofShape? m with
    | none => rfl
    | some told => exact ofShape?_eq conforms tells
  · intro accepted
    obtain ⟨m, rfl, conforms⟩ : IsDocument .v2 value := Validation.accepts_iff.1 accepted
    rw [Value.without, detect_without, detectedByShape?_without]
    refine ⟨?_, ?_, ?_⟩
    · exact showsFlatFields_without.not.2 (not_showsFlatFields conforms)
    · change _ ↔ ShowsRelations m
      rw [← ofShape?_eq_v2_iff conforms]
      cases ofShape? m <;> simp
    · intro shows
      rw [ofShape?_eq_none conforms shows]
      exact ⟨rfl, rfl⟩

/-- A document with one channel. -/
def oneChannel (g : Generation) (fields : Mapping) : Value :=
  .map [(.str "version", .str g.discriminator),
    (.str "meta", .map [(.str "name", .str "Bakery"), (.str "portfolio", .str "explore"),
      (.str "stage", .str "ideation")]),
    (.str "channels", .list [.map ((.str "id", .str "ch-shop") :: (.str "name", .str "Shop") ::
      fields)])]

def flatChannel : Value :=
  oneChannel .v1 [(.str "type", .str "direct"), (.str "segments", .list [.str "cs-regulars"])]

def typedChannel : Value :=
  oneChannel .v2 [(.str "for", .map [(.str "customer_segments", .list [.str "cs-regulars"])])]

def silentChannel : Value := oneChannel .v2 []

theorem detect_valid_oneChannel :
    (Accepts flatChannel (some .v1) ∧ Accepts flatChannel none ∧ detect flatChannel = .v1 ∧
        detect (flatChannel.without "version") = .v1) ∧
      (Accepts typedChannel (some .v2) ∧ Accepts typedChannel none ∧
        detect typedChannel = .v2 ∧ detect (typedChannel.without "version") = .v2) ∧
      (Accepts silentChannel (some .v2) ∧ ¬ShowsRelations silentChannel.asMapping ∧
        detect (silentChannel.without "version") = .v1) := by
  have flat : Accepts flatChannel (some .v1) := Validation.accepts_iff_isValid.2 rfl
  have typed : Accepts typedChannel (some .v2) := Validation.accepts_iff_isValid.2 rfl
  have silent : Accepts silentChannel (some .v2) := Validation.accepts_iff_isValid.2 rfl
  have shows : ShowsRelations typedChannel.asMapping :=
    .inr (.inr ⟨"channels", List.mem_cons_self, _, _, rfl, .inl rfl⟩)
  obtain ⟨detectFlat, _, autoFlat, stripFlat, _⟩ := detect_valid flatChannel
  obtain ⟨detectTyped, _, autoTyped, _, stripTyped⟩ := detect_valid typedChannel
  obtain ⟨_, _, _, _, stripSilent⟩ := detect_valid silentChannel
  obtain ⟨_, relations, default⟩ := stripSilent silent
  have hides : ¬ShowsRelations silentChannel.asMapping := relations.not.1 (by decide)
  exact ⟨⟨flat, autoFlat.2 ⟨.v1, flat⟩, detectFlat .v1 flat, stripFlat flat⟩,
    ⟨typed, autoTyped.2 ⟨.v2, typed⟩, detectTyped .v2 typed, (stripTyped typed).2.1.2 shows⟩,
    ⟨silent, hides, (default hides).2⟩⟩

end Generation

end BusinessModel
