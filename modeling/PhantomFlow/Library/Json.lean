import Mathlib.Data.List.Infix
import PhantomFlow.Library.JsNumber

namespace PhantomFlow.Library

-- A JSON value as a script holds it; the properties of an object are in the order in
-- which they are enumerated.
inductive Json where
  | null
  | bool (value : Bool)
  | number (value : JsNumber ℚ)
  | string (value : String)
  | array (items : List Json)
  | object (properties : List (String × Json))

-- How a finite number is written: with a digit or the sign in front.
structure NumberText where
  text : ℚ → String
  starts : ∀ q, ∃ c ∈ ['-','0','1','2','3','4','5','6','7','8','9'], ∃ rest, (text q).toList = c :: rest

def NumberText.zero : NumberText where
  text _ := "0"
  starts _ := ⟨'0',by decide,[],rfl⟩

def NumberText.numberString (numbers : NumberText) : JsNumber ℚ → String
  | .finite q => numbers.text q
  | .posInf => "Infinity"
  | .negInf => "-Infinity"
  | .nan => "NaN"

namespace Json

-- A missing property is `none`; what is empty, zero, null or missing does not count.
def truthy : Option Json → Bool
  | none | some .null => false
  | some (.bool b) => b
  | some (.number (.finite q)) => decide (q ≠ 0)
  | some (.number .nan) => false
  | some (.number _) => true
  | some (.string s) => decide (s ≠ "")
  | some (.array _) | some (.object _) => true

def or (first second : Option Json) : Option Json := if truthy first then first else second

def hexDigit (n : ℕ) : Char := if n < 10 then Char.ofNat (48 + n) else Char.ofNat (87 + n)

def escape (c : Char) : List Char :=
  if c = '"' then ['\\','"']
  else if c = '\\' then ['\\','\\']
  else if c.toNat = 8 then ['\\','b']
  else if c.toNat = 9 then ['\\','t']
  else if c.toNat = 10 then ['\\','n']
  else if c.toNat = 12 then ['\\','f']
  else if c.toNat = 13 then ['\\','r']
  else if c.toNat < 32 then ['\\','u','0','0',hexDigit (c.toNat / 16),hexDigit (c.toNat % 16)]
  else [c]

def quote (s : List Char) : List Char := '"' :: (s.flatMap escape ++ ['"'])

def numeral (numbers : NumberText) : JsNumber ℚ → List Char
  | .finite q => (numbers.text q).toList
  | _ => "null".toList

mutual

def stringify (numbers : NumberText) : Json → List Char
  | .null => "null".toList
  | .bool b => (toString b).toList
  | .number n => numeral numbers n
  | .string s => quote s.toList
  | .array items => '[' :: (stringifyItems numbers items ++ [']'])
  | .object properties => '\x7b' :: (stringifyProperties numbers properties ++ ['\x7d'])

def stringifyItems (numbers : NumberText) : List Json → List Char
  | [] => []
  | [item] => stringify numbers item
  | item :: next :: rest => stringify numbers item ++ ',' :: stringifyItems numbers (next :: rest)

def stringifyProperties (numbers : NumberText) : List (String × Json) → List Char
  | [] => []
  | [(name,value)] => quote name.toList ++ ':' :: stringify numbers value
  | (name,value) :: next :: rest =>
    quote name.toList ++ ':' :: stringify numbers value ++ ',' :: stringifyProperties numbers (next :: rest)

end

inductive HasString (s : String) : Json → Prop where
  | here : HasString s (.string s)
  | item (member : value ∈ items) (inside : HasString s value) : HasString s (.array items)
  | property (member : (name,value) ∈ properties) (inside : HasString s value) : HasString s (.object properties)

theorem stringifyItems_holds (numbers : NumberText) {items : List Json} (member : value ∈ items) :
    stringify numbers value <:+: stringifyItems numbers items := by
  induction items with
  | nil => cases member
  | cons item rest ih =>
      cases rest with
      | nil =>
          rw [List.mem_singleton.mp member,stringifyItems]
      | cons next rest =>
          rw [stringifyItems]
          cases List.mem_cons.mp member with
          | inl first =>
              rw [first]
              exact (List.prefix_append _ _).isInfix
          | inr others => exact (ih others).trans ((List.suffix_cons _ _).trans (List.suffix_append _ _)).isInfix

theorem stringifyProperties_holds (numbers : NumberText) {properties : List (String × Json)}
    (member : (name,value) ∈ properties) : stringify numbers value <:+: stringifyProperties numbers properties := by
  induction properties with
  | nil => cases member
  | cons property rest ih =>
      obtain ⟨other,first⟩ := property
      cases rest with
      | nil =>
          cases List.mem_singleton.mp member
          rw [stringifyProperties]
          exact ((List.suffix_cons _ _).trans (List.suffix_append _ _)).isInfix
      | cons next rest =>
          rw [stringifyProperties]
          cases List.mem_cons.mp member with
          | inl here =>
              cases here
              refine List.IsInfix.trans ?_ (List.prefix_append _ _).isInfix
              exact ((List.suffix_cons _ _).trans (List.suffix_append _ _)).isInfix
          | inr others => exact (ih others).trans ((List.suffix_cons _ _).trans (List.suffix_append _ _)).isInfix

theorem HasString.quoted (numbers : NumberText) (inside : HasString s value) :
    quote s.toList <:+: stringify numbers value := by
  induction inside with
  | here => rw [stringify]
  | item member _ ih =>
      rw [stringify]
      refine (ih.trans (stringifyItems_holds numbers member)).trans ?_
      exact ((List.prefix_append _ _).isInfix).trans (List.suffix_cons _ _).isInfix
  | property member _ ih =>
      rw [stringify]
      refine (ih.trans (stringifyProperties_holds numbers member)).trans ?_
      exact ((List.prefix_append _ _).isInfix).trans (List.suffix_cons _ _).isInfix

end Json

end PhantomFlow.Library
