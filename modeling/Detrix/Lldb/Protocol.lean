/-
**Program output in the stream of the LLDB proxy.**

`read_dap_message` skips the lines before a message that are no headers, and reads as many bytes as the
header says. Both are positions in bytes, and a message may contain lines that look like headers.

- `readHeaders_line`: what one line does.
- `readDapMessage_frame`: after lines of the program the next message is read, and no byte behind it.
- `messages_read_in_order`: the messages are read one after the other, and nothing else.
-/

import Detrix.Library.Bytes
import Detrix.Library.Delimited

namespace Detrix.Lldb

open Library Bytes Text List

/-- `str::to_lowercase`, of which is known what it does to ASCII. -/
structure Lowercase where
  apply : String → String
  ascii : ∀ s : String, (∀ c ∈ s.toList, c.toNat < 128) → apply s = asciiLowercase s

/-! ### The reader -/

/-- `read_line`: the next line with its end, and what follows. -/
def readLine : List UInt8 → List UInt8 × List UInt8
  | [] => ([], [])
  | byte :: rest =>
    if byte = 10 then ([byte], rest) else (byte :: (readLine rest).1, (readLine rest).2)

theorem readLine_shorter : ∀ {bytes : List UInt8}, bytes ≠ [] →
    (readLine bytes).2.length < bytes.length
  | [byte], _ => by rw [readLine]; split <;> simp [readLine]
  | byte :: next :: rest, _ => by
    rw [readLine]
    split
    · simp
    · exact (readLine_shorter (cons_ne_nil next rest)).trans (Nat.lt_succ_self _)

variable (lower : Lowercase)

def isHeader (trimmed name : String) : Bool := startsWith (lower.apply trimmed) name

/-- What stands behind the colon, as a length. -/
def lengthIn (trimmed : String) : Option Nat :=
  (splitChars ':' trimmed.toList)[1]?.bind fun digits => parseU64 (trimChars digits)

/-- What a line makes of the length that is known, and whether the headers end with it. -/
def afterLine (contentLength : Option Nat) (line : String) : Bool × Option Nat :=
  if trim line = "" then (contentLength.isSome, contentLength)
  else if isHeader lower (trim line) "content-length:" then
    (false, (lengthIn (trim line)).or contentLength)
  else if isHeader lower (trim line) "content-type:" then (false, contentLength)
  else (false, none)

/-- The headers of `read_dap_message`: the length, and what follows them. -/
def readHeaders (contentLength : Option Nat) (bytes : List UInt8) : Option Nat × List UInt8 :=
  if bytes = [] then (none, [])
  else match fromUtf8 (readLine bytes).1 with
    | none => (none, (readLine bytes).2)
    | some line =>
      let (done, contentLength) := afterLine lower contentLength line
      if done then (contentLength, (readLine bytes).2)
      else readHeaders contentLength (readLine bytes).2
termination_by bytes.length
decreasing_by exact readLine_shorter ‹_›

/-- The text of a body, from its first brace on if it begins like no JSON. -/
def jsonPart (body : String) : Option String :=
  let trimmed := body.toList.dropWhile isWhitespace
  if trimmed.head? = some '\x7b' ∨ trimmed.head? = some '[' then some body
  else
    let json := trimmed.dropWhile (· ≠ '\x7b')
    if json = [] then none else some (.ofList json)

def readDapMessage (bytes : List UInt8) : Option String × List UInt8 :=
  match readHeaders lower none bytes with
  | (none, rest) => (none, rest)
  | (some contentLength, rest) =>
    if rest.length < contentLength then (none, [])
    else ((fromUtf8 (rest.take contentLength)).bind jsonPart, rest.drop contentLength)

/-- The answers of so many calls. -/
def answers : Nat → List UInt8 → List (Option String)
  | 0, _ => []
  | n + 1, bytes => (readDapMessage lower bytes).1 :: answers n (readDapMessage lower bytes).2

/-! ### The stream -/

def headerOf (length : Nat) : String := "Content-Length: " ++ toString length

def writeDapMessage (message : String) : List UInt8 :=
  utf8 (headerOf (utf8 message).length ++ "\r" ++ "\n") ++ (utf8 ("\r" ++ "\n") ++ utf8 message)

/-- A complete line of the program that is no header. -/
structure Leaked where
  text : String
  complete : '\n' ∉ text.toList
  noLength : isHeader lower (trim (text ++ "\n")) "content-length:" = false
  noType : isHeader lower (trim (text ++ "\n")) "content-type:" = false

/-- The text of a JSON object, as far as the reader looks at it. -/
structure Message where
  text : String
  object : (text.toList.dropWhile isWhitespace).head? = some '\x7b'
  fits : (utf8 text).length < UInt64.size

def output (leaked : List (Leaked lower)) : List UInt8 :=
  leaked.flatMap fun line => utf8 (line.text ++ "\n")

/-- The bytes of the messages, each with the lines before it. -/
def stream : List (List (Leaked lower) × Message) → List UInt8
  | [] => []
  | (leaked, message) :: later =>
    output lower leaked ++ (writeDapMessage message.text ++ stream later)

variable {lower} {text : String} {rest : List UInt8} {n : Nat}

theorem readLine_append {front : List UInt8} (absent : 10 ∉ front) :
    readLine (front ++ 10 :: rest) = (front ++ [10], rest) := by
  induction front with
  | nil => rfl
  | cons byte front ih =>
    rw [cons_append, readLine, if_neg (ne_of_not_mem_cons absent).symm, ih (not_mem_of_not_mem_cons absent)]
    rfl

theorem readHeaders_line (complete : '\n' ∉ text.toList) (known : Option Nat) :
    readHeaders lower known (utf8 (text ++ "\n") ++ rest) =
      let (done, known) := afterLine lower known (text ++ "\n")
      if done then (known, rest) else readHeaders lower known rest := by
  have bytes : utf8 (text ++ "\n") = utf8 text ++ [10] := utf8_append text "\n"
  have cut : readLine (utf8 (text ++ "\n") ++ rest) = (utf8 (text ++ "\n"), rest) := by
    rw [bytes, append_assoc]
    exact readLine_append fun mem => complete (lineFeed_mem_utf8 mem)
  rw [readHeaders, if_neg (by simp [bytes]), cut, fromUtf8_utf8]

theorem afterLine_leaked (line : Leaked lower) :
    afterLine lower none (line.text ++ "\n") = (false, none) := by
  rw [afterLine, line.noLength, line.noType]
  simp

theorem readHeaders_leaked : ∀ leaked : List (Leaked lower),
    readHeaders lower none (output lower leaked ++ rest) = readHeaders lower none rest
  | [] => rfl
  | line :: later => by
    rw [output, flatMap_cons, append_assoc, readHeaders_line line.complete, afterLine_leaked]
    exact readHeaders_leaked later

theorem headerOf_toList : (headerOf n).toList = "Content-Length: ".toList ++ (toString n).toList :=
  String.toList_append

theorem lengthIn_headerOf (small : n < UInt64.size) : lengthIn (headerOf n) = some n := by
  have noColon : ':' ∉ ' ' :: (toString n).toList :=
    not_mem_cons_of_ne_of_not_mem (by decide) (not_mem_toString rfl)
  have parts : splitChars ':' (headerOf n).toList = ["Content-Length".toList, ' ' :: (toString n).toList] := by
    rw [headerOf_toList, ← splitChars_self noColon]
    exact @splitChars_cons _ "Content-Length".toList (by decide) _
  rw [lengthIn, parts, getElem?_cons_succ, getElem?_cons_zero, Option.bind_some, trimChars,
    dropWhile_cons_of_pos (by decide), ← trimChars, solid_toString.trimChars, parseU64_toString small]

theorem headerOf_ascii : ∀ c ∈ (headerOf n).toList, c.toNat < 128 := by
  intro c mem
  rw [headerOf_toList] at mem
  rcases mem_append.mp mem with fixed | digit
  · exact (by simp : ∀ c ∈ "Content-Length: ".toList, c.toNat < 128) c fixed
  · exact (alphanum_range (isAlphanum_of_mem digit)).2.trans_lt (by decide)

theorem isHeader_headerOf : isHeader lower (headerOf n) "content-length:" = true := by
  have name : "Content-Length: ".toList.map Char.toLower = "content-length:".toList ++ [' '] := by decide
  rw [isHeader, lower.ascii _ headerOf_ascii, startsWith, asciiLowercase, headerOf_toList, map_append,
    name, @String.toList_ofList (_ ++ _), append_assoc, List.isPrefixOf_iff_prefix]
  exact prefix_append _ _

theorem afterLine_headerOf (small : n < UInt64.size) :
    afterLine lower none (headerOf n ++ "\r" ++ "\n") = (false, some n) := by
  have solid : Solid (headerOf n).toList := by
    rw [headerOf_toList]
    exact .cons_append (by decide) _ (toString_ne_nil n) solid_toString
  have trimmed : trim (headerOf n ++ "\r" ++ "\n") = headerOf n := by
    rw [trim, String.toList_append, String.toList_append, append_assoc, solid.trimChars_append, String.ofList_toList]
    · simp [headerOf_toList]
    · simp [isWhitespace]
  have long : headerOf n ≠ "" := fun none => by
    simpa [headerOf_toList] using congrArg String.toList none
  rw [afterLine, trimmed, if_neg long, if_pos isHeader_headerOf, lengthIn_headerOf small]
  rfl

theorem readDapMessage_frame (leaked : List (Leaked lower)) (message : Message) :
    readDapMessage lower (output lower leaked ++ (writeDapMessage message.text ++ rest)) =
      (some message.text, rest) := by
  have headers : readHeaders lower none (writeDapMessage message.text ++ rest) =
      (some (utf8 message.text).length, utf8 message.text ++ rest) := by
    have absent : '\n' ∉ Nat.toDigits 10 (utf8 message.text).length :=
      fun mem => absurd (isDigit_of_mem mem) (by decide)
    rw [writeDapMessage, append_assoc, readHeaders_line (by simpa [headerOf_toList] using absent),
      afterLine_headerOf message.fits, append_assoc]
    exact readHeaders_line (by decide) _
  rw [readDapMessage, readHeaders_leaked, headers]
  dsimp only
  rw [if_neg (by simp), take_left, drop_left, fromUtf8_utf8, Option.bind_some, jsonPart,
    if_pos (.inl message.object)]

/-- **Leaked output does not corrupt the stream**: the calls return the messages in order, and then
nothing. -/
theorem messages_read_in_order (lower : Lowercase) (traffic : List (List (Leaked lower) × Message)) :
    answers lower (traffic.length + 1) (stream lower traffic) =
      traffic.map (fun part => some part.2.text) ++ [none] := by
  induction traffic with
  | nil => simp [answers, stream, readDapMessage, readHeaders]
  | cons part later ih =>
    rw [length_cons, answers, stream, readDapMessage_frame, ih]
    rfl

end Detrix.Lldb
