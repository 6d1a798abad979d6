import SchemaDoc.Source.Token

/-!
Contract: parsers over numbered tokens.

A parser takes the tokens that are left and gives a result with the tokens left after it, or
nothing. It takes tokens from the front alone, and carries the proof of this. Repetition is bounded
by the number of tokens left, so every parser is total.
-/

namespace SchemaDoc.Source

/-- Tokens with their places in the file. -/
abbrev Tokens := List (Token × Nat)

/-- What reads a result from the front of the tokens. -/
structure Parser (α : Type) where
  run : Tokens → Option (α × Tokens)
  isSuffix : ∀ {tokens rest : Tokens} {value : α},
    run tokens = some (value, rest) → rest <:+ tokens

namespace Parser

/-- Gives a result and takes nothing. -/
def give {α : Type} (value : α) : Parser α where
  run tokens := some (value, tokens)
  isSuffix given := (Prod.mk.inj (Option.some.inj given)).2 ▸ List.suffix_rfl

/-- Goes on with what a parser gives. -/
def andThen {α β : Type} (parser : Parser α) (next : α → Parser β) : Parser β where
  run tokens := (parser.run tokens).bind fun found => (next found.1).run found.2
  isSuffix given := by
    obtain ⟨⟨value, rest⟩, isRead, goesOn⟩ := Option.bind_eq_some_iff.mp given
    exact ((next value).isSuffix goesOn).trans (parser.isSuffix isRead)

instance : Monad Parser where
  pure := give
  bind := andThen

/-- No result. -/
def fail {α : Type} : Parser α where
  run _ := none
  isSuffix given := absurd given (by simp)

/-- Looks at the tokens and takes none. -/
def look {α : Type} (read : Tokens → α) : Parser α where
  run tokens := some (read tokens, tokens)
  isSuffix given := (Prod.mk.inj (Option.some.inj given)).2 ▸ List.suffix_rfl

/-- The next token; behind the last one there is nothing but the end. -/
def peek : Parser Token :=
  look fun
    | (token, _) :: _ => token
    | [] => .finish

/-- The token after the next one. -/
def peekSecond : Parser Token :=
  look fun
    | _ :: (token, _) :: _ => token
    | _ => .finish

/-- The place of the next token. -/
def here : Parser Nat :=
  look fun
    | (_, place) :: _ => place
    | [] => 0

/-- Passes over the next token. -/
def skip : Parser Unit where
  run tokens := some ((), tokens.drop 1)
  isSuffix given := (Prod.mk.inj (Option.some.inj given)).2 ▸ List.drop_suffix 1 _

/-- Passes over exactly this token. -/
def expect (token : Token) : Parser Unit := do
  if (← peek) = token then skip else fail

def symbol (text : String) : Parser Unit := expect (.symbol text)

def keyword (word : String) : Parser Unit := expect (.keyword word)

/-- Passes over the token if it comes next, and says whether it did. -/
def accept (token : Token) : Parser Bool := do
  if (← peek) = token then
    skip
    return true
  else return false

/-- A name. -/
def name : Parser Text := do
  match (← peek) with
  | .name text _ =>
    skip
    return text
  | _ => fail

/-- The next token is a name, written plainly, that reads `word`. -/
def atWord (word : String) : Parser Bool := do
  match (← peek) with
  | .name text plain => return plain && text = word.toList
  | _ => return false

/-- The first of two parsers that gives a result. -/
def either {α : Type} (first second : Parser α) : Parser α where
  run tokens :=
    match first.run tokens with
    | some found => some found
    | none => second.run tokens
  isSuffix given := by
    split at given
    · next isRead => exact first.isSuffix (isRead.trans given)
    · exact second.isSuffix given

/-- A result if there is one; without one, no token is passed over. -/
def attempt {α : Type} (parser : Parser α) : Parser (Option α) where
  run tokens :=
    match parser.run tokens with
    | some (found, rest) => some (some found, rest)
    | none => some (none, tokens)
  isSuffix given := by
    split at given
    · next isRead => exact (Prod.mk.inj (Option.some.inj given)).2 ▸ parser.isSuffix isRead
    · exact (Prod.mk.inj (Option.some.inj given)).2 ▸ List.suffix_rfl

/-- Repeats a step on a state until it declines, a limited number of times. -/
def iterateWith {σ : Type} (step : σ → Parser (Option σ)) : Nat → σ → Parser σ
  | 0, _ => fail
  | fuel + 1, state => do
    match (← step state) with
    | some next => iterateWith step fuel next
    | none => return state

/-- Repeats a step on a state until it declines. -/
def iterate {σ : Type} (step : σ → Parser (Option σ)) (state : σ) : Parser σ where
  run tokens := (iterateWith step (tokens.length + 1) state).run tokens
  isSuffix given := Parser.isSuffix _ given

/-- Items for as long as the test on the next token holds. -/
def many {α : Type} (continues : Parser Bool) (item : Parser α) : Parser (List α) := do
  let items ← iterate
    (fun done => do
      if (← continues) then return some ((← item) :: done) else return none)
    []
  return items.reverse

/-- Further items, each behind a comma, and whether a comma follows the last one. -/
def moreItems {α : Type} (item : Parser α) : Parser (List α × Bool) := do
  let (items, trailing) ← iterate
    (fun (state : List α × Bool) => do
      if state.2 then return none
      if (← accept (.symbol ",")) then
        match (← attempt item) with
        | some found => return some (found :: state.1, false)
        | none => return some (state.1, true)
      else return none)
    ([], false)
  return (items.reverse, trailing)

/-- One item or more with commas between them, and whether a comma follows the last one. -/
def commaList {α : Type} (item : Parser α) : Parser (List α × Bool) := do
  let first ← item
  let (items, trailing) ← moreItems item
  return (first :: items, trailing)

/-- One item or more with commas between them and none after the last. -/
def strictList {α : Type} (item : Parser α) : Parser (List α) := do
  let (items, trailing) ← commaList item
  if trailing then fail else return items

/-- The next token is none of the given ones. -/
def notAt (stops : List Token) : Parser Bool := do
  return !stops.contains (← peek)

end Parser

end SchemaDoc.Source
