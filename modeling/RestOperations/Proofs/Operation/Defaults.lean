import RestOperations.Proofs.Decimal.Numerals
import RestOperations.Proofs.Operation.Slots

/-!
Defaults of slots. A default is text, and is converted when a call leaves the argument out. Which texts
the conversions take is said here by what the texts look like. Nothing looks at a default before that:
an operation is compiled whatever the defaults of its slots are, and a default that its conversion
does not take shows at the first call without the argument.
-/

namespace RestOperations

/-- The texts that the conversion takes. -/
def Conversion.Takes [Json.Depth] : Conversion → String → Prop
  | string, _ => True
  | number, s => Decimal.IsInteger s ∨ Decimal.IsFloat s
  | integer, s => Decimal.IsInteger s
  | boolean, s => Text.lower (String.ofList (Text.trim s.toList)) ∈ trueWords ++ falseWords
  | object, s => ∃ v, Json.read s = .ok v
  | other _, _ => True

namespace Conversion

lemma isOk_readInteger (s : String) : (readInteger s).isOk = true ↔ Decimal.IsInteger s := by
  rw [readInteger, isOk_mapError, Decimal.isOk_readInt_iff]

lemma isOk_toNumber (s : String) :
    (toNumber (.str s)).isOk = true ↔ Decimal.IsInteger s ∨ Decimal.IsFloat s := by
  rw [← isOk_readInteger, ← Decimal.isSome_readFloat?_iff, toNumber, readNumber]
  cases readInteger s <;> cases Decimal.readFloat? s <;> simp [Except.isOk, Except.toBool]

lemma isOk_toBoolean [Json.Depth] (s : String) :
    (toBoolean (.str s)).isOk = true ↔ boolean.Takes s := by
  rw [toBoolean, Takes, List.mem_append, ← List.contains_iff_mem, ← List.contains_iff_mem]
  split_ifs <;> simp_all [Except.isOk, Except.toBool]

/-- A text is converted if it is one that the conversion takes. -/
theorem isOk_apply_str [Json.Depth] (c : Conversion) (s : String) :
    (c.apply (.str s)).isOk = true ↔ c.Takes s := by
  cases c with
  | string => exact iff_of_true rfl trivial
  | number => exact isOk_toNumber s
  | integer => exact (by rw [apply, isOk_map, toInteger, isOk_readInteger]; rfl)
  | boolean => exact (by rw [apply, isOk_map, isOk_toBoolean])
  | object => exact (by rw [apply, toObject, isOk_mapError, isOk_iff]; rfl)
  | other name => exact iff_of_true rfl trivial

end Conversion

namespace Slot

/-- The default, if there is any, is one that the conversion takes. -/
def TakesDefault [Json.Depth] (s : Slot) : Prop :=
  ∀ c t, s.conversion = some c → s.default = some t → c.Takes t

lemma isOk_convert_str [Json.Depth] (s : Slot) (t : String) :
    (s.convert (.str t)).isOk = true ↔ ∀ c, s.conversion = some c → c.Takes t := by
  unfold convert
  cases s.conversion with
  | none => exact iff_of_true rfl nofun
  | some c => simp [Conversion.isOk_apply_str]

end Slot

namespace Scope

/-- Where there is no argument, it is the default that is converted. -/
lemma lookup_absent [Json.Depth] {scope : Scope} {s : Slot} (h : scope.given s = .ok .null) :
    scope.lookup s = match s.default with
      | none => .ok .null
      | some t => s.convert (.str t) := by
  rw [lookup, h, ok_bind]
  unfold Slot.defaultValue
  cases s.default <;> rfl

theorem isOk_lookup_absent [Json.Depth] {scope : Scope} {s : Slot} (h : scope.given s = .ok .null) :
    (scope.lookup s).isOk = true ↔ s.TakesDefault := by
  rw [lookup_absent h]
  unfold Slot.TakesDefault
  cases s.default with
  | none => exact iff_of_true rfl nofun
  | some t => simp [Slot.isOk_convert_str]

/-- A default that the conversion does not take is reported at the call, as if it were an argument. -/
lemma lookup_unreadable [Json.Depth] {scope : Scope} {s : Slot} (h : scope.given s = .ok .null)
    (hdefault : ¬ s.TakesDefault) : ∃ e, scope.lookup s = .error (.cannotConvert s e) := by
  cases hlookup : scope.lookup s with
  | ok v =>
    have hok : (scope.lookup s).isOk = true := by rw [hlookup]; rfl
    exact absurd ((isOk_lookup_absent h).mp hok) hdefault
  | error f =>
    rw [lookup_absent h] at hlookup
    split at hlookup
    · cases hlookup
    · unfold Slot.convert at hlookup
      split at hlookup
      · cases hlookup
      · obtain ⟨e, -, rfl⟩ := mapError_eq_error.mp hlookup
        exact ⟨e, rfl⟩

end Scope

namespace Operation

open SlotSyntax

/-- **Defaults are not looked at when an operation is compiled.** Each slot of the operation is one
that its template is written with. Its default can be converted if and only if it is a text that the
conversion takes. If it is not, every call without the argument fails for it, and otherwise no such
call does. -/
theorem defaults_taken [Json.Depth] {template functions : Value} {name : Option String}
    {op : Operation}
    (hop : compile template functions name = .ok op) :
    (∃ t, OperationTemplate.ofValue template = .ok t ∧ ∀ slots, t.Lists slots ↔ slots = op.slots) ∧
    ∀ s ∈ op.slots,
      ((∀ c t, s.conversion = some c → s.default = some t → ∃ v, c.apply (.str t) = .ok v) ↔
        s.TakesDefault) ∧
      ∀ scope : Scope, scope.given s = .ok .null →
        ((∃ v, scope.lookup s = .ok v) ↔ s.TakesDefault) ∧
        (¬ s.TakesDefault → ∃ e, scope.lookup s = .error (.cannotConvert s e)) := by
  refine ⟨?_, fun s _ => ⟨?_, fun scope hgiven => ⟨?_, Scope.lookup_unreadable hgiven⟩⟩⟩
  · obtain ⟨t, ht, hlists⟩ := lists_compile hop
    exact ⟨t, ht, fun slots => ⟨fun h => h.unique hlists, fun h => h ▸ hlists⟩⟩
  · simp only [Slot.TakesDefault, ← Conversion.isOk_apply_str, isOk_iff]
  · rw [← isOk_iff, Scope.isOk_lookup_absent hgiven]

attribute [local instance] Json.Depth.thousand

/-- A template whose query is this text and nothing else. -/
def queryTemplate (text : String) : Value :=
  .map [(.str "method", .str "GET"), (.str "url", .str "/"),
    (.str "query", .map [(.str "n", .str text)])]

/-- A call that provides nothing. -/
def emptyScope : Scope := ⟨[], [], .null⟩

theorem number_default_taken :
    ∃ op, compile (queryTemplate "\x7bn:integer=12\x7d") .null none = .ok op ∧
      ∃ s ∈ op.slots, s.default = some "12" ∧ ∃ v, emptyScope.lookup s = .ok v := by
  obtain ⟨op, hop, s, hs, hconversion, hdefault, v, hv, hnull⟩ :
      ∃ op, compile (queryTemplate "\x7bn:integer=12\x7d") .null none = .ok op ∧
        ∃ s ∈ op.slots, s.conversion = some .integer ∧ s.default = some "12" ∧
          ∃ v, emptyScope.given s = .ok v ∧ v.isNull = true := by
    decide +kernel
  obtain rfl := Value.isNull_iff.mp hnull
  obtain ⟨happly, hlookup⟩ := (defaults_taken hop).2 s hs
  have htakes : s.TakesDefault := happly.mp fun c t hc ht => by
    rw [hconversion] at hc
    rw [hdefault] at ht
    cases hc
    cases ht
    exact isOk_iff.mp (by decide)
  exact ⟨op, hop, s, hs, hdefault, (hlookup emptyScope hv).1.mpr htakes⟩

/-- A word is no integer, and still there is an operation with it as a default. -/
theorem word_default_compiled :
    ¬ ∀ op, compile (queryTemplate "\x7bn:integer=abc\x7d") .null none = .ok op →
      ∀ s ∈ op.slots, ∀ c t, s.conversion = some c → s.default = some t →
        ∃ v, c.apply (.str t) = .ok v := by
  intro h
  obtain ⟨op, hop, s, hs, hconversion, hdefault⟩ :
      ∃ op, compile (queryTemplate "\x7bn:integer=abc\x7d") .null none = .ok op ∧
        ∃ s ∈ op.slots, s.conversion = some .integer ∧ s.default = some "abc" := by
    decide +kernel
  exact absurd (isOk_iff.mpr (h op hop s hs _ _ hconversion hdefault)) (by decide)

/-! ### Any default will do -/

lemma compileString_source {s : SlotSyntax} {d : Destination} {r : Slot} (hs : s.WellFormed)
    (hr : s.toSlot d = .ok r) :
    Template.compileString (String.ofList s.source) d = .ok (.slot r) := by
  have hread : read? s.source = some (s, []) := by
    simpa using read?_source hs []
  have htext : Template.compileText (String.ofList s.source) d = .ok (.slot r) := by
    rw [Template.compileText, String.toList_ofList, hread]
    dsimp only
    rw [hr]
    rfl
  unfold Template.compileString
  split
  · next hdollar =>
    rw [String.toList_ofList] at hdollar
    rw [hdollar] at hread
    cases hread
  · exact htext

/-- A query of one slot can be compiled if the slot can. -/
lemma compile_queryTemplate {s : SlotSyntax} {r : Slot} (hs : s.WellFormed)
    (hr : s.toSlot .query = .ok r) :
    ∃ op, compile (queryTemplate (String.ofList s.source)) .null none = .ok op ∧ op.slots = [r] := by
  have htemplate : OperationTemplate.ofValue (queryTemplate (String.ofList s.source)) =
      .ok ⟨"GET", "/", [("n", .str (String.ofList s.source))], [], .null, none⟩ := by
    rfl
  have hurl : Template.compileUrl "/" = .ok (.url [.text "/"]) := by
    rfl
  have hquery : Template.compileEntries .query [("n", .str (String.ofList s.source))] =
      .ok [("n", .slot r)] := by
    rw [Template.compileEntries, Template.compile, compileString_source hs hr]
    rfl
  rw [compile_eq, if_neg (by simp [queryTemplate, Value.isNull]), htemplate]
  dsimp only
  rw [ofTemplate]
  dsimp only
  rw [hurl, ok_bind, hquery, ok_bind]
  exact ⟨_, rfl, rfl⟩

/-- A slot with a conversion and a default. -/
def defaultSyntax (c : Conversion) (t : List Char) : SlotSyntax :=
  ⟨none, ['n'], some c.name.toList, some t⟩

lemma isWord_name {c : Conversion} (hc : c.isKnown = true) :
    c.name.toList ≠ [] ∧ c.name.toList.all Text.isWord = true := by
  cases c with
  | other name => cases hc
  | _ => decide

lemma wellFormed_defaultSyntax {c : Conversion} (hc : c.isKnown = true) {t : List Char}
    (ht : ∀ x ∈ t, x ≠ '}') : (defaultSyntax c t).WellFormed where
  named := List.cons_ne_nil _ _
  name := List.forall_mem_singleton.mpr (by decide)
  conversion := by
    rintro _ ⟨⟩
    exact ⟨(isWord_name hc).1, List.all_eq_true.mp (isWord_name hc).2⟩
  default := by
    rintro _ ⟨⟩ x hx
    simpa using ht x hx

lemma toSlot_defaultSyntax {c : Conversion} (hc : c.isKnown = true) (t : List Char)
    (d : Destination) : (defaultSyntax c t).toSlot d =
      .ok ⟨"n", d, d == .path, some c, some (String.ofList t)⟩ := by
  cases c with
  | other name => cases hc
  | _ => rfl

/-- Whichever conversion a slot asks for, and whatever its default is, an operation is compiled. -/
theorem any_default_compiled {c : Conversion} (hc : c.isKnown = true) {t : List Char}
    (ht : ∀ x ∈ t, x ≠ '}') :
    ∃ op, compile (queryTemplate (String.ofList (defaultSyntax c t).source)) .null none = .ok op ∧
      ∃ s ∈ op.slots, s.conversion = some c ∧ s.default = some (String.ofList t) := by
  obtain ⟨op, hop, hslots⟩ :=
    compile_queryTemplate (wellFormed_defaultSyntax hc ht) (toSlot_defaultSyntax hc t .query)
  exact ⟨op, hop, _, hslots ▸ List.mem_singleton_self _, rfl, rfl⟩

end Operation

end RestOperations
