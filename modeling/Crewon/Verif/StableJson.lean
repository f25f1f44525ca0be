import Crewon.Application.CanonicalJson
import Crewon.Store.StableJson
import Crewon.Verif.CanonicalJson
import Mathlib

/-!
# Which values the store tells apart

The store loses a field under the key of the prototype when it rebuilds a record. Two values have
the same text exactly when they are the same up to the order of keys after these fields are left
away, and the text is the one of the application exactly when there are none.
-/

namespace Crewon.Verif.StableJson

open Crewon.Js Crewon.Checked Crewon.Domain Crewon.Application Crewon.Store Json

/-- The text of an accepted value is that of the rebuilt one. -/
theorem text_of_stabilize {rules : Rebuilding} {value : Json} {text : JsString}
    (accepted : (Json.stabilize rules value 0).map stringify = .ok text) :
    text = stringify (rebuilt rules.build value) := by
  cases stable : Json.stabilize rules value 0 with
  | error => simp [stable, Except.map] at accepted
  | ok result =>
    rw [stable] at accepted
    cases accepted
    rw [rebuilt_of_stabilize value stable]

/-- The stable text of a value is that of it without the fields under the key of the prototype. -/
theorem stableJson_eq {value : Json} {text : JsString}
    (accepted : StoreInvariants.stableJson value = .ok text) :
    text = stringify (rebuilt fromEntries (withoutProto value)) := by
  rw [text_of_stabilize accepted, ← rebuilt_assignEach]
  rfl

/-- Two accepted values have the same stable text exactly when they are the same up to the order of
keys, unless they differ only in fields under the key of the prototype; and the stable text of a
value is its canonical one exactly when it has no such field. -/
theorem stableJson_iff (left right : Json) (leftText rightText canonicalText : JsString) :
    (Proper left → Proper right → StoreInvariants.stableJson left = .ok leftText →
      StoreInvariants.stableJson right = .ok rightText →
      ((leftText = rightText ↔ SameUpToOrder left right) ↔
        (SameUpToOrder (withoutProto left) (withoutProto right) → SameUpToOrder left right))) ∧
    (Proper left → StoreInvariants.stableJson left = .ok leftText →
      CanonicalJson.canonicalJson left = .ok canonicalText →
      (leftText = canonicalText ↔ hasProto left = false)) := by
  constructor
  · intro leftProper rightProper leftAccepted rightAccepted
    have texts : leftText = rightText ↔
        SameUpToOrder (withoutProto left) (withoutProto right) := by
      rw [stableJson_eq leftAccepted, stableJson_eq rightAccepted]
      exact stringify_eq_iff (proper_withoutProto left leftProper)
        (proper_withoutProto right rightProper)
    rw [texts]
    exact ⟨Iff.mp, fun kept => ⟨kept, SameUpToOrder.withoutProto⟩⟩
  · intro proper stable canonical
    have texts : leftText = canonicalText ↔ SameUpToOrder (withoutProto left) left := by
      rw [stableJson_eq stable, text_of_stabilize canonical]
      exact stringify_eq_iff (proper_withoutProto left proper) proper
    rw [texts]
    constructor
    · exact hasProto_of_same left proper
    · intro plain
      rw [withoutProto_eq_self left plain]
      exact SameUpToOrder.refl proper

/-- A record whose only field is under the key of the prototype. -/
def protoRecord : Json := .object [(protoKey, .bool true)]

/-- The record is written like an empty one by the store, and as it is by the application. -/
theorem protoRecord_texts :
    StoreInvariants.stableJson protoRecord = .ok (js "\x7b\x7d") ∧
      StoreInvariants.stableJson (.object []) = .ok (js "\x7b\x7d") ∧
      CanonicalJson.canonicalJson protoRecord = .ok (js "\x7b\"__proto__\":true\x7d") := by
  decide_cbv

/-- A record whose keys are not in order. -/
def swappedRecord : Json := .object [(js "b", .null), (js "9", .bool true), (js "10", .bool false)]

/-- The same record with its keys in order. -/
def orderedRecord : Json := .object [(js "9", .bool true), (js "10", .bool false), (js "b", .null)]

/-- Both records are written in the same way. -/
theorem swappedRecord_texts :
    StoreInvariants.stableJson swappedRecord =
        .ok (js "\x7b\"9\":true,\"10\":false,\"b\":null\x7d") ∧
      StoreInvariants.stableJson orderedRecord =
        .ok (js "\x7b\"9\":true,\"10\":false,\"b\":null\x7d") ∧
      CanonicalJson.canonicalJson swappedRecord =
        .ok (js "\x7b\"9\":true,\"10\":false,\"b\":null\x7d") := by
  decide_cbv

/-- The two records are the same up to the order of their keys, and have no lost field. -/
theorem stableJson_sample :
    SameUpToOrder swappedRecord orderedRecord ∧ hasProto swappedRecord = false := by
  obtain ⟨swapped, ordered, canonical⟩ := swappedRecord_texts
  have swappedProper : Proper swappedRecord := ⟨by decide, trivial, trivial, trivial, trivial⟩
  have orderedProper : Proper orderedRecord := ⟨by decide, trivial, trivial, trivial, trivial⟩
  have told := (stableJson_iff swappedRecord orderedRecord _ _ .empty).1 swappedProper
    orderedProper swapped ordered
  have agrees := (stableJson_iff swappedRecord orderedRecord _ .empty _).2 swappedProper swapped
    canonical
  have plain : hasProto swappedRecord = false := agrees.mp rfl
  have plainOrdered : hasProto orderedRecord = false := by decide
  have kept : SameUpToOrder (withoutProto swappedRecord) (withoutProto orderedRecord) →
      SameUpToOrder swappedRecord orderedRecord := by
    rw [withoutProto_eq_self _ plain, withoutProto_eq_self _ plainOrdered]
    exact id
  exact ⟨(told.mpr kept).mp rfl, plain⟩

/-- Two different records have the same stable text, and the canonical text of one is another. -/
theorem prototype_field_is_lost :
    ¬ ((∀ (left right : Json) (leftText rightText : JsString), Proper left → Proper right →
        StoreInvariants.stableJson left = .ok leftText →
        StoreInvariants.stableJson right = .ok rightText →
        (leftText = rightText ↔ SameUpToOrder left right)) ∨
      (∀ (value : Json) (stableText canonicalText : JsString), Proper value →
        StoreInvariants.stableJson value = .ok stableText →
        CanonicalJson.canonicalJson value = .ok canonicalText → stableText = canonicalText)) := by
  have texts := protoRecord_texts
  have proper : Proper protoRecord := ⟨by simp, trivial, trivial⟩
  have empty : Proper (.object []) := ⟨by simp, trivial⟩
  rintro (tells | agrees)
  · have same := (tells _ _ _ _ proper empty texts.1 texts.2.1).mp rfl
    exact absurd same.1.length_eq (by decide)
  · have equal := agrees _ _ _ proper texts.1 texts.2.2
    exact absurd equal (by decide)

end Crewon.Verif.StableJson
