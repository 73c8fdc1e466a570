import PhantomFlow.Ingestion.Normaliser

namespace PhantomFlow.Detection
open Library Ingestion

structure SigmaRule where
  id : String
  title : String
  level : EventSeverity
  eventType : Option String
  contains : Option (List String)
deriving DecidableEq

structure SigmaMatch where
  ruleId : String
  title : String
  level : EventSeverity
  matchedFields : List String
deriving DecidableEq

section Matching
variable (tables : CaseTables) (numbers : NumberText)

def haystack (event : UnifiedEventSchema) : List Char :=
  tables.toLowerCase (Json.stringify numbers (.object event.rawPayload.entries))

def lowered (needle : String) : List Char := tables.toLowerCase needle.toList

-- An empty text is no event type, and an empty list no list.
def eventTypeFields (rule : SigmaRule) (event : UnifiedEventSchema) : Option (List String) :=
  if rule.eventType.getD "" = "" then some []
  else if rule.eventType.getD "" = event.eventType then some ["event_type"] else none

def containsFields (rule : SigmaRule) (event : UnifiedEventSchema) : Option (List String) :=
  if rule.contains.getD [] = [] then some []
  else if (rule.contains.getD []).all (fun needle => decide (lowered tables needle <:+: haystack tables numbers event)) then
    some ["raw_payload"]
  else none

def matchRule (rule : SigmaRule) (event : UnifiedEventSchema) : Option SigmaMatch := do
  let typeFields ← eventTypeFields rule event
  let payloadFields ← containsFields tables numbers rule event
  return ⟨rule.id,rule.title,rule.level,typeFields ++ payloadFields⟩

def evaluate (rules : List SigmaRule) (event : UnifiedEventSchema) : List SigmaMatch :=
  rules.filterMap (fun rule => matchRule tables numbers rule event)

end Matching

variable {tables : CaseTables} {numbers : NumberText}

def Occurs (needle : String) (payload : Payload) : Prop :=
  ∃ s, Json.HasString s (.object payload.entries) ∧ asciiLower needle.toList <:+: asciiLower s.toList

def escaped (needle : String) : List Char := needle.toList.flatMap Json.escape

theorem escape_letter {c : Char} (letter : c.isAlpha = true) : Json.escape c = [c] := by
  have small : ∀ n < 128, (Char.ofNat n).isAlpha = true → Json.escape (Char.ofNat n) = [Char.ofNat n] := by decide
  have at_ := small c.toNat (CaseTables.isAlpha_ascii letter)
  rw [Char.ofNat_toNat] at at_
  exact at_ letter

theorem escape_alike {c d : Char} (same : c.toLower = d.toLower) :
    List.Forall₂ (CaseTables.Alike tables) (Json.escape c) (Json.escape d) := by
  cases CaseTables.eq_or_letters same with
  | inl equal =>
      rw [equal]
      exact List.forall₂_same.mpr (fun e _ => CaseTables.alike_refl e)
  | inr letters =>
      rw [escape_letter letters.1,escape_letter letters.2]
      exact .cons (CaseTables.alike_of_toLower same) .nil

theorem escaped_alike (tables : CaseTables) {first second : List Char} (same : asciiLower first = asciiLower second) :
    List.Forall₂ (CaseTables.Alike tables) (first.flatMap Json.escape) (second.flatMap Json.escape) := by
  induction first generalizing second with
  | nil =>
      rw [List.map_eq_nil_iff.mp same.symm]
      exact .nil
  | cons c rest ih =>
      cases second with
      | nil => cases same
      | cons d rest' =>
          obtain ⟨head,tail⟩ := List.cons.inj same
          rw [List.flatMap_cons,List.flatMap_cons]
          exact List.rel_append (escape_alike head) (ih tail)

theorem asciiLower_infix {part text : List Char} (inside : asciiLower part <:+: asciiLower text) :
    ∃ spelt, spelt <:+: text ∧ asciiLower spelt = asciiLower part := by
  obtain ⟨before,after,split⟩ := inside
  obtain ⟨first,last,rfl,front,_⟩ := List.map_eq_append_iff.mp split.symm
  obtain ⟨start,spelt,rfl,_,same⟩ := List.map_eq_append_iff.mp front
  exact ⟨spelt,⟨start,last,rfl⟩,same⟩

theorem occurs_haystack {event : UnifiedEventSchema} (occurs : Occurs needle event.rawPayload) :
    ∃ before next, tables.lowerIn before (escaped needle) next <:+: haystack tables numbers event := by
  obtain ⟨s,inside,found⟩ := occurs
  obtain ⟨spelt,part,same⟩ := asciiLower_infix found
  have quoted : spelt.flatMap Json.escape <:+: Json.quote s.toList := by
    obtain ⟨before,after,split⟩ := part
    rw [← split]
    unfold Json.quote
    refine ⟨'"' :: before.flatMap Json.escape,after.flatMap Json.escape ++ ['"'],?_⟩
    simp only [List.flatMap_append,List.cons_append,List.append_assoc]
  obtain ⟨before,next,lowered⟩ :=
    CaseTables.lowerIn_infix tables false (quoted.trans (inside.quoted numbers)) false
  refine ⟨before,next,?_⟩
  have spelling := CaseTables.lowerIn_alike (escaped_alike tables same) before next
  change _ = tables.lowerIn before (escaped needle) next at spelling
  rw [← spelling]
  exact lowered

-- What every haystack with a string value in it holds: how an object begins, a name
-- ends and an object ends.
def Framed (found : List Char) : Prop := found <:+: ['\x7b','"'] ∨ found <:+: ['"',':'] ∨ found <:+: ['\x7d']

theorem stringifyProperties_named (numbers : NumberText) (property : String × Json) (rest : List (String × Json)) :
    ∃ after, Json.stringifyProperties numbers (property :: rest) = Json.quote property.1.toList ++ ':' :: after := by
  obtain ⟨name,value⟩ := property
  cases rest with
  | nil => exact ⟨_,by rw [Json.stringifyProperties]⟩
  | cons next rest => exact ⟨_,by rw [Json.stringifyProperties,List.append_assoc,List.cons_append]⟩

theorem framed_stringify (numbers : NumberText) (present : properties ≠ []) (framed : Framed found) :
    found <:+: Json.stringify numbers (.object properties) := by
  cases properties with
  | nil => exact absurd rfl present
  | cons property rest =>
      obtain ⟨after,named⟩ := stringifyProperties_named numbers property rest
      rw [Json.stringify,named]
      unfold Json.quote
      obtain start | name | finish := framed
      · refine start.trans ⟨[],property.1.toList.flatMap Json.escape ++ ['"'] ++ ':' :: after ++ ['\x7d'],?_⟩
        simp
      · refine name.trans ⟨'\x7b' :: '"' :: property.1.toList.flatMap Json.escape,after ++ ['\x7d'],?_⟩
        simp
      · exact finish.trans (((List.suffix_append _ _).trans (List.suffix_cons _ _)).isInfix)

theorem frame_ascii {frame : List Char} (known : frame = ['\x7b','"'] ∨ frame = ['"',':'] ∨ frame = ['\x7d']) (before next : Bool) :
    tables.lowerIn before frame next = frame := by
  rw [CaseTables.lowerIn_ascii]
  · obtain rfl | rfl | rfl := known <;> rfl
  · obtain rfl | rfl | rfl := known <;> rfl

theorem framed_haystack {event : UnifiedEventSchema} (occurs : Occurs needle event.rawPayload) (framed : Framed found) :
    found <:+: haystack tables numbers event := by
  have present : event.rawPayload.entries ≠ [] := by
    intro none
    obtain ⟨s,inside,_⟩ := occurs
    rw [none] at inside
    cases inside with
    | property member => cases member
  have stands : ∀ frame, (frame = ['\x7b','"'] ∨ frame = ['"',':'] ∨ frame = ['\x7d']) → Framed frame →
      frame <:+: haystack tables numbers event := by
    intro frame known itself
    obtain ⟨before,next,lowered⟩ := CaseTables.lowerIn_infix tables false (framed_stringify numbers present itself) false
    rw [frame_ascii known] at lowered
    exact lowered
  obtain start | name | finish := framed
  · exact start.trans (stands _ (Or.inl rfl) (Or.inl List.infix_rfl))
  · exact name.trans (stands _ (Or.inr (Or.inl rfl)) (Or.inr (Or.inl List.infix_rfl)))
  · exact finish.trans (stands _ (Or.inr (Or.inr rfl)) (Or.inr (Or.inr List.infix_rfl)))

end PhantomFlow.Detection
