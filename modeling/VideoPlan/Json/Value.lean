import VideoPlan.Json.Token

/-!
# JSON values

A JSON value as it is written: numbers keep their digits, objects keep their members in order and also
those whose names occur twice.
-/

namespace VideoPlan.Json

/-- A JSON value. -/
inductive Value
  | null
  | boolean (value : Bool)
  | number (digits : String)
  /-- A string, if it stands for a text. -/
  | string (value : Option String)
  | array (elements : List Value)
  | object (members : List (Option String × Value))

namespace Value

mutual

/-- The value that the tokens start with, and what follows it. -/
def ofTokens? (tokens : List Token) : Option (Value × List Token) :=
  match tokens with
  | .null :: rest => some (.null, rest)
  | .boolean value :: rest => some (.boolean value, rest)
  | .number digits :: rest => some (.number digits, rest)
  | .string value :: rest => some (.string value, rest)
  | .leftBracket :: .rightBracket :: rest => some (.array [], rest)
  | .leftBracket :: rest =>
    (elementsOfTokens? rest).map fun (elements, rest) => (.array elements, rest)
  | .leftBrace :: .rightBrace :: rest => some (.object [], rest)
  | .leftBrace :: rest => (membersOfTokens? rest).map fun (members, rest) => (.object members, rest)
  | _ => none
termination_by (tokens.length, 0)

/-- The elements of an array up to its end, and what follows it. -/
def elementsOfTokens? (tokens : List Token) : Option (List Value × List Token) :=
  match ofTokens? tokens with
  | some (element, .rightBracket :: rest) => some ([element], rest)
  | some (element, .comma :: rest) =>
    if _h : rest.length < tokens.length then
      (elementsOfTokens? rest).map fun (elements, rest) => (element :: elements, rest)
    else none
  | _ => none
termination_by (tokens.length, 1)

/-- The members of an object up to its end, and what follows it. -/
def membersOfTokens? (tokens : List Token) : Option (List (Option String × Value) × List Token) :=
  match tokens with
  | .string name :: .colon :: value =>
    match ofTokens? value with
    | some (value, .rightBrace :: rest) => some ([(name, value)], rest)
    | some (member, .comma :: rest) =>
      if _h : rest.length < value.length then
        (membersOfTokens? rest).map fun (members, rest) => ((name, member) :: members, rest)
      else none
    | _ => none
  | _ => none
termination_by (tokens.length, 1)

end

/-- The value that a text writes. -/
def read? (text : String) : Option Value := do
  match ← ofTokens? (← Token.scanAll? text.toList) with
  | (value, []) => some value
  | _ => none

/-! ## Reading typed values -/

/-- A text. -/
def text? : Value → Option String
  | .string value => value
  | _ => none

/-- A truth value. -/
def bool? : Value → Option Bool
  | .boolean value => some value
  | _ => none

/-- A number of 64 bits without a sign, a point or an exponent. -/
def nat? : Value → Option Nat
  | .number digits =>
    if digits.toList.all Char.isDigit then (Number.readNat? digits.toList).filter (· < UInt64.size)
    else none
  | _ => none

/-- Null, or a value of some type. -/
def nullable? (read? : Value → Option α) : Value → Option (Option α)
  | .null => some none
  | value => some <$> read? value

/-- An array of values of one type. -/
def list? (read? : Value → Option α) : Value → Option (List α)
  | .array elements => elements.mapM read?
  | _ => none

/-- One of some names: as a string, or as an object with that name and null. -/
def name? : Value → Option String
  | .string value => value
  | .object [(name, .null)] => name
  | _ => none

/-- A value that may be missing. -/
def orElse (read? : Value → Option α) (default : α) : Option Value → Option α
  | none => some default
  | some value => read? value

/-- The values of the fields of a record. They are given by name, where no name of a field may occur twice
and other names do not matter, or in order, where fields may be missing at the end. -/
def fields? (names : List String) : Value → Option (List (Option Value))
  | .object members => do
    let members ← members.mapM fun (name, value) => name.map (·, value)
    let known := (members.map (·.1)).filter names.contains
    if known.eraseDups.length < known.length then none
    else some (names.map fun name => members.lookup name)
  | .array elements =>
    if elements.length ≤ names.length then
      some (elements.map some ++ List.replicate (names.length - elements.length) none)
    else none
  | _ => none

end Value

end VideoPlan.Json
