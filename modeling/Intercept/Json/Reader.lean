import Intercept.Json.Token

/-!
# Reading a JSON text

The tokens of a text are taken one after the other by a reader that keeps the arrays and objects
that are still open, innermost first, and what may come next. There is no limit to how deep values
may be nested. Main statement: `read?_tokens`, the tokens of a value are read as that value.
-/

namespace Intercept.Json

/-- An array or object that is still open, with what it holds so far, last first. -/
inductive Frame where
  | array (done : List Json)
  /-- A key comes next. -/
  | object (done : List (Option String × Json))
  /-- The value of a key comes next. -/
  | member (done : List (Option String × Json)) (key : Option String)

/-- What may come next. -/
inductive Expected where
  | value
  /-- The first element of an array, or its end. -/
  | element
  /-- The first key of an object, or its end. -/
  | firstKey
  | key
  | colon
  /-- A value has just ended. -/
  | after (v : Json)

structure Reader where
  frames : List Frame
  expected : Expected

namespace Reader

def start : Reader := ⟨[], .value⟩

/-- A value begins. -/
def beginValue (frames : List Frame) : Token → Option Reader
  | .null => some ⟨frames, .after .null⟩
  | .bool b => some ⟨frames, .after (.bool b)⟩
  | .natural n => some ⟨frames, .after (.natural n)⟩
  | .number => some ⟨frames, .after .number⟩
  | .string content => some ⟨frames, .after (.string content)⟩
  | .openBracket => some ⟨.array [] :: frames, .element⟩
  | .openBrace => some ⟨.object [] :: frames, .firstKey⟩
  | _ => none

/-- A key is taken. -/
def takeKey : List Frame → Token → Option Reader
  | .object done :: frames, .string key => some ⟨.member done key :: frames, .colon⟩
  | _, _ => none

/-- An array or object goes on or ends after a value. -/
def afterValue (v : Json) : List Frame → Token → Option Reader
  | .array done :: frames, .comma => some ⟨.array (v :: done) :: frames, .value⟩
  | .array done :: frames, .closeBracket => some ⟨frames, .after (.array (v :: done).reverse)⟩
  | .member done key :: frames, .comma => some ⟨.object ((key, v) :: done) :: frames, .key⟩
  | .member done key :: frames, .closeBrace =>
    some ⟨frames, .after (.object ((key, v) :: done).reverse)⟩
  | _, _ => none

def step (r : Reader) (t : Token) : Option Reader :=
  match r.expected with
  | .value => beginValue r.frames t
  | .element => match t, r.frames with
    | .closeBracket, .array done :: frames => some ⟨frames, .after (.array done.reverse)⟩
    | t, frames => beginValue frames t
  | .firstKey => match t, r.frames with
    | .closeBrace, .object done :: frames => some ⟨frames, .after (.object done.reverse)⟩
    | t, frames => takeKey frames t
  | .key => takeKey r.frames t
  | .colon => if t = .colon then some { r with expected := .value } else none
  | .after v => afterValue v r.frames t

def run (r : Reader) : List Token → Option Reader
  | [] => some r
  | t :: ts => (r.step t).bind (run · ts)

theorem run_append (r : Reader) (ts us : List Token) :
    r.run (ts ++ us) = (r.run ts).bind (run · us) := by
  induction ts generalizing r with
  | nil => rfl
  | cons t ts ih =>
    simp only [List.cons_append, run]
    cases r.step t with
    | none => rfl
    | some s => simp [ih]

def value? (r : Reader) : Option Json :=
  match r.frames, r.expected with
  | [], .after v => some v
  | _, _ => none

end Reader

/-- The value whose tokens are given. -/
def read? (ts : List Token) : Option Json := (Reader.start.run ts).bind Reader.value?

/-- The value that a text spells. -/
def ofText? (s : String) : Option Json := (Token.scan? s.toList).bind read?

/-! ### Reading the tokens of a value -/

mutual

def tokens : Json → List Token
  | .null => [.null]
  | .bool b => [.bool b]
  | .natural n => [.natural n]
  | .number => [.number]
  | .string content => [.string content]
  | .array elements => .openBracket :: elementTokens elements
  | .object members => .openBrace :: memberTokens members

/-- The tokens of the elements of an array and of the bracket that closes it. -/
def elementTokens : List Json → List Token
  | [] => [.closeBracket]
  | [v] => tokens v ++ [.closeBracket]
  | v :: w :: rest => tokens v ++ .comma :: elementTokens (w :: rest)

/-- The tokens of the members of an object and of the brace that closes it. -/
def memberTokens : List (Option String × Json) → List Token
  | [] => [.closeBrace]
  | [(key, v)] => .string key :: .colon :: tokens v ++ [.closeBrace]
  | (key, v) :: m :: rest => .string key :: .colon :: tokens v ++ .comma :: memberTokens (m :: rest)

end

/-- Where an array may end, a value may begin just as well. -/
theorem run_element (v : Json) (ts : List Token) (frames : List Frame) :
    Reader.run ⟨frames, .element⟩ (v.tokens ++ ts)
      = Reader.run ⟨frames, .value⟩ (v.tokens ++ ts) := by
  cases v <;> rfl

theorem run_firstElement (v : Json) (rest : List Json) (frames : List Frame) :
    Reader.run ⟨frames, .element⟩ (elementTokens (v :: rest))
      = Reader.run ⟨frames, .value⟩ (elementTokens (v :: rest)) := by
  cases rest with
  | nil => rw [elementTokens]; exact run_element v _ frames
  | cons w rest => rw [elementTokens]; exact run_element v _ frames

/-- Where an object may end, a key may come just as well. -/
theorem run_firstMember (key : Option String) (v : Json) (rest : List (Option String × Json))
    (frames : List Frame) :
    Reader.run ⟨frames, .firstKey⟩ (memberTokens ((key, v) :: rest))
      = Reader.run ⟨frames, .key⟩ (memberTokens ((key, v) :: rest)) := by
  cases rest with
  | nil => rfl
  | cons m rest => rfl

mutual

/-- Where a value is expected, its tokens are taken and it has just ended. -/
theorem run_tokens : ∀ (v : Json) (frames : List Frame),
    Reader.run ⟨frames, .value⟩ v.tokens = some ⟨frames, .after v⟩
  | .null, _ => rfl
  | .bool _, _ => rfl
  | .natural _, _ => rfl
  | .number, _ => rfl
  | .string _, _ => rfl
  | .array [], _ => rfl
  | .array (v :: rest), frames => by
    rw [tokens, Reader.run]
    exact (run_firstElement v rest _).trans (run_elementTokens (v :: rest) (by simp) [] frames)
  | .object [], _ => rfl
  | .object ((key, v) :: rest), frames => by
    rw [tokens, Reader.run]
    exact (run_firstMember key v rest _).trans
      (run_memberTokens ((key, v) :: rest) (by simp) [] frames)

/-- The elements of an open array are taken and the array has just ended. -/
theorem run_elementTokens : ∀ (elements : List Json), elements ≠ [] →
    ∀ (done : List Json) (frames : List Frame),
    Reader.run ⟨.array done :: frames, .value⟩ (elementTokens elements)
      = some ⟨frames, .after (.array (done.reverse ++ elements))⟩
  | [], h, _, _ => absurd rfl h
  | [v], _, done, frames => by
    rw [elementTokens, Reader.run_append, run_tokens v]
    simp [Reader.run, Reader.step, Reader.afterValue]
  | v :: w :: rest, _, done, frames => by
    rw [elementTokens, Reader.run_append, run_tokens v]
    simp only [Option.bind_some, Reader.run, Reader.step, Reader.afterValue]
    rw [run_elementTokens (w :: rest) (by simp) (v :: done) frames]
    simp

/-- The members of an open object are taken and the object has just ended. -/
theorem run_memberTokens : ∀ (members : List (Option String × Json)), members ≠ [] →
    ∀ (done : List (Option String × Json)) (frames : List Frame),
    Reader.run ⟨.object done :: frames, .key⟩ (memberTokens members)
      = some ⟨frames, .after (.object (done.reverse ++ members))⟩
  | [], h, _, _ => absurd rfl h
  | [(key, v)], _, done, frames => by
    rw [memberTokens]
    simp only [List.cons_append, Reader.run, Reader.step, Reader.takeKey, Option.bind_some, if_true]
    rw [Reader.run_append, run_tokens v]
    simp [Reader.run, Reader.step, Reader.afterValue]
  | (key, v) :: m :: rest, _, done, frames => by
    rw [memberTokens]
    simp only [List.cons_append, Reader.run, Reader.step, Reader.takeKey, Option.bind_some, if_true]
    rw [Reader.run_append, run_tokens v]
    simp only [Option.bind_some, Reader.run, Reader.step, Reader.afterValue]
    rw [run_memberTokens (m :: rest) (by simp) ((key, v) :: done) frames]
    simp

end

/-- **Reading.** The tokens of a value are read as that value. -/
theorem read?_tokens (v : Json) : read? v.tokens = some v := by
  rw [read?, Reader.start, run_tokens]
  rfl

end Intercept.Json
