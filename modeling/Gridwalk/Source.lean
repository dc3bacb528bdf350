import Gridwalk.Text.Utf8

/-!
# Line input

A source hands out bytes one by one and may fail in between or for good. Lines end just
after an LF byte; the last one may end with the data.
-/
namespace Gridwalk

inductive Source where
  /-- No more bytes, now and later. -/
  | eof
  /-- Every further read fails. -/
  | broken (cause : String)
  | byte (value : UInt8) (rest : Source)
  /-- One read fails here; the bytes after it can still be read. -/
  | fault (cause : String) (rest : Source)
  deriving DecidableEq, Repr, Inhabited

inductive LineFault where
  | exhausted
  | notUtf8
  | device (cause : String)
  deriving DecidableEq, Repr, Inhabited

namespace Source

/-- The source that holds these bytes, then goes on as `tail`. -/
def prepend (bytes : List UInt8) (tail : Source) : Source := bytes.foldr byte tail

def ofBytes (bytes : List UInt8) : Source := prepend bytes eof

def lineFeed : UInt8 := 10

/-- Takes bytes through the next LF or up to the end of the data. The second part is the
cause of a failure met on the way; the bytes taken before it are gone. -/
def takeLine : Source → List UInt8 × Option String × Source
  | eof => ([], none, eof)
  | broken cause => ([], some cause, broken cause)
  | fault cause rest => ([], some cause, rest)
  | byte b rest =>
    if b = lineFeed then ([b], none, rest)
    else
      let (line, failure, rest) := rest.takeLine
      (b :: line, failure, rest)

/-- Removes one LF from the end and, only if there was one, one CR before it. -/
def dropTerminator (line : List Char) : List Char :=
  match line.reverse with
  | '\n' :: '\r' :: rest => rest.reverse
  | '\n' :: rest => rest.reverse
  | _ => line

/-- Reads one line as text without its terminator. A line that is not UTF-8 is consumed all
the same, and a failing device hides whatever was wrong with the bytes before the failure. -/
def readLine (s : Source) : Except LineFault (List Char) × Source :=
  match s.takeLine with
  | (_, some cause, rest) => (.error (.device cause), rest)
  | ([], none, rest) => (.error .exhausted, rest)
  | (line, none, rest) =>
    match Utf8.decode line with
    | none => (.error .notUtf8, rest)
    | some text => (.ok (dropTerminator text), rest)

@[simp] theorem prepend_nil (tail : Source) : prepend [] tail = tail := rfl

@[simp] theorem prepend_cons (b : UInt8) (bytes : List UInt8) (tail : Source) :
    prepend (b :: bytes) tail = byte b (prepend bytes tail) := rfl

theorem prepend_append (a b : List UInt8) (tail : Source) :
    prepend (a ++ b) tail = prepend a (prepend b tail) := by
  simp [prepend]

end Source

end Gridwalk
