import RestOperations.Document.Load
import RestOperations.Proofs.Json.Depth
import RestOperations.Proofs.Yaml.Composing
import RestOperations.Proofs.Yaml.Levels

/-!
What becomes of a document that cannot be read. As JSON, whatever is wrong with it is reported as a
fault of the configuration, unless the text goes too deep. As YAML, it is reported unless the first
thing wrong is a number too large for a character or a version, or a scalar that does not hold what
it promises.
-/

namespace RestOperations

namespace Document

/-- Nothing goes wrong but what is reported as a fault of the configuration. -/
def Reported {α : Type} (r : Except Fault α) : Prop := FaultsIn (fun f => f.isConfiguration = true) r

instance {α : Type} (r : Except Fault α) : Decidable (Reported r) :=
  match r with
  | .ok a => isTrue (faultsIn_ok a)
  | .error f => decidable_of_iff (f.isConfiguration = true) (by simp [Reported])

/-- The characters of a content that is to be JSON. -/
def jsonText : Content → Option String
  | .text s => some s
  | .octets bs => (Json.decodeOctets bs).toOption

/-- The characters of a content that is to be YAML. -/
def yamlText : Content → Option (List Char)
  | .text s => some s.toList
  | .octets bs => (Yaml.decode bs).toOption

/-- The first thing wrong with a YAML text is a number that is written in it, or a scalar. -/
inductive Misread (cs : List Char) : Prop
  /-- An escape is for a character beyond the last one, and nothing that comes before it is wrong. -/
  | character {code : Nat} : cs.all Yaml.isAllowed = true → 0x110000 ≤ code →
      Yaml.Node.ofText? cs = .error (.scalar (.noCharacter code)) → Misread cs
  /-- The version in a directive has too many digits, and nothing that comes before it is wrong. -/
  | version {digits : Nat} : cs.all Yaml.isAllowed = true → Decimal.digitLimit < digits →
      Yaml.Node.ofText? cs = .error (.scalar (.tooManyDigits digits)) → Misread cs
  /-- A scalar does not hold what it promises, and nothing comes before it in the tree that is
  wrong. -/
  | meant {n : Yaml.Node} {level : Nat} {e : Yaml.ScalarError} : cs.all Yaml.isAllowed = true →
      Yaml.Node.ofText? cs = .ok (some n) → n.FirstFault level (.scalar e) → Misread cs

section

variable {α ε : Type}

lemma reported_mapError {g : ε → Fault} (r : Except ε α) :
    Reported (r.mapError g) ↔ ∀ e, r = .error e → (g e).isConfiguration = true := by
  cases r <;> simp [Reported]

/-- Whatever a value is, it can be made a document of, or is reported; only reading it counts. -/
lemma reported_bind_ofValue (r : Except Fault Value) : Reported (r >>= ofValue) ↔ Reported r := by
  rw [Reported, faultsIn_bind]
  exact and_iff_left fun v _ => (reported_mapError (check v)).mpr fun _ _ => rfl

/-! ### JSON -/

lemma isConfiguration_documentNotJson (e : Json.OctetError) :
    (Fault.documentNotJson e).isConfiguration = true ↔ e.isTooDeep ≠ true := by
  cases h : e.isTooDeep <;> simp [Fault.isConfiguration, Fault.group, h]

lemma readJson_tooDeep_iff [Json.Depth] (c : Content) :
    (∃ e, readJson c = .error e ∧ e.isTooDeep = true) ↔
      ∃ s, jsonText c = some s ∧ Json.TooDeep s := by
  have hread (s : String) : (∃ e, (Json.read s).mapError Json.OctetError.json = .error e ∧
      e.isTooDeep = true) ↔ Json.TooDeep s := by
    rw [Json.TooDeep]
    cases Json.read s <;> simp [Json.OctetError.isTooDeep]
  cases c with
  | text s => simp [readJson, jsonText, hread]
  | octets bs =>
    rw [readJson, Json.readOctets, jsonText]
    cases Json.decodeOctets bs with
    | error e => simp [Json.OctetError.isTooDeep, Except.toOption]
    | ok s => simp [hread, Except.toOption]

lemma reported_ofJson [Json.Depth] (c : Content) :
    Reported (ofJson c) ↔ ∀ s, jsonText c = some s → ¬ Json.TooDeep s := by
  have hdeep := not_congr (readJson_tooDeep_iff c)
  rw [not_exists, not_exists] at hdeep
  rw [ofJson, reported_bind_ofValue, reported_mapError]
  simpa only [not_and, isConfiguration_documentNotJson] using hdeep

/-! ### YAML -/

/-- No fault of a scalar is one of the configuration. -/
lemma not_isConfiguration_documentScalar (e : Yaml.ScalarError) :
    ¬ (Fault.documentScalar e).isConfiguration = true := by
  cases e with
  | noCharacter code =>
    rw [Fault.isConfiguration, Fault.group, Fault.scalarGroup]
    split_ifs <;> simp
  | _ => exact Bool.false_ne_true

lemma isConfiguration_yamlFault (f : Yaml.Failure) :
    (yamlFault f).isConfiguration = true ↔ ∀ e, f ≠ .scalar e := by
  cases f with
  | malformed => exact iff_of_true rfl nofun
  | scalar e => exact iff_of_false (not_isConfiguration_documentScalar e) fun h => h e rfl

lemma readText_scalar_iff (cs : List Char) :
    (∃ e, Yaml.readText cs = .error (.scalar e)) ↔ Misread cs := by
  unfold Yaml.readText
  cases hallowed : cs.all Yaml.isAllowed with
  | false =>
    refine iff_of_false nofun ?_
    rintro (⟨h, -⟩ | ⟨h, -⟩ | ⟨h, -⟩) <;> simp [hallowed] at h
  | true =>
    rw [if_neg (by simp)]
    constructor
    · rintro ⟨e, h⟩
      obtain h | ⟨_ | n, hn, h⟩ := bind_eq_error.mp h
      · have hearly := Yaml.Node.endsEarly_ofText? cs
        rw [h] at hearly
        obtain ⟨⟩ | ⟨hf⟩ := hearly
        cases hf with
        | character hcode => exact .character hallowed hcode h
        | version hdigits => exact .version hallowed hdigits h
      · cases h
      · obtain ⟨⟨level, e'⟩, hread, ⟨⟩⟩ := mapError_eq_error.mp h
        exact .meant hallowed hn (Yaml.Node.read_eq_error_iff.mp hread)
    · rintro (⟨-, -, h⟩ | ⟨-, -, h⟩ | ⟨-, hn, hfirst⟩)
      · exact ⟨_, by rw [h]; rfl⟩
      · exact ⟨_, by rw [h]; rfl⟩
      · have hread := Yaml.Node.read_eq_error_iff.mpr hfirst
        exact ⟨_, by rw [hn, ok_bind]; dsimp only; rw [hread]; rfl⟩

lemma decode_eq_error {bs : List UInt8} {f : Yaml.Failure} (h : Yaml.decode bs = .error f) :
    f = .malformed := by
  unfold Yaml.decode at h
  split at h <;> (obtain ⟨-, -, rfl⟩ := mapError_eq_error.mp h; rfl)

lemma readYaml_scalar_iff (c : Content) :
    (∃ e, readYaml c = .error (.scalar e)) ↔ ∃ cs, yamlText c = some cs ∧ Misread cs := by
  cases c with
  | text s => simp [readYaml, yamlText, readText_scalar_iff]
  | octets bs =>
    rw [readYaml, yamlText]
    cases h : Yaml.decode bs with
    | error f =>
      obtain rfl := decode_eq_error h
      simp [Except.toOption]
    | ok cs => simp [readText_scalar_iff, Except.toOption]

lemma reported_ofYaml (c : Content) :
    Reported (ofYaml c) ↔ ∀ cs, yamlText c = some cs → ¬ Misread cs := by
  have hscalar := not_congr (readYaml_scalar_iff c)
  rw [not_exists, not_exists] at hscalar
  rw [ofYaml, reported_bind_ofValue, reported_mapError]
  simp only [not_and, isConfiguration_yamlFault] at hscalar ⊢
  rw [← hscalar]
  exact ⟨fun h e he => h _ he e rfl, fun h f hf e he => h e (he ▸ hf)⟩

end

/-- **Documents that cannot be read are reported, but for a scalar of YAML.** -/
theorem reported_iff [Json.Depth] (c : Content) :
    (Reported (ofJson c) ↔ ∀ s, jsonText c = some s → ¬ Json.TooDeep s) ∧
      (Reported (ofYaml c) ↔ ∀ cs, yamlText c = some cs → ¬ Misread cs) :=
  ⟨reported_ofJson c, reported_ofYaml c⟩

/-- There is no such month, and that is not reported as the fault of the document that it is. -/
theorem month_not_reported : ¬ Reported (ofYaml (.text "2020-13-45")) := by
  decide +kernel

end Document

end RestOperations
