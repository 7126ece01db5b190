import EdgeReveal.Text.Utf8

/-!
# The event stream

Bytes of the event socket arrive in chunks with pauses and interrupts anywhere
between them. A line reader hands them on in pieces that end at a newline, where
the reading was broken off, or at the end of the connection; the listener joins
the pieces again and publishes one text per newline.
-/
namespace EdgeReveal

/-- What happens on a connection before its end. -/
inductive Arrival where
  | chunk (bytes : List UInt8)
  /-- Nothing comes for longer than the reader waits. -/
  | pause
  | interrupt
  deriving DecidableEq, Repr, Inhabited

/-- How one read up to a newline ends, with the bytes that it has added to the buffer. Nothing
taken is the end of the connection. -/
inductive Read where
  | taken (bytes : List UInt8)
  | timedOut (bytes : List UInt8)
  | interrupted (bytes : List UInt8)
  | failed (bytes : List UInt8)
  deriving DecidableEq, Repr, Inhabited

namespace EventStream

def newline : UInt8 := 10

/-- Cuts bytes behind each newline; the second part holds those behind the last one. -/
def cutLines : List UInt8 → List (List UInt8) × List UInt8
  | [] => ([], [])
  | b :: rest =>
    match cutLines rest with
    | ([], tail) => if b = newline then ([[b]], tail) else ([], b :: tail)
    | (line :: lines, tail) =>
      if b = newline then ([b] :: line :: lines, tail) else ((b :: line) :: lines, tail)

theorem flatten_cutLines (bytes : List UInt8) :
    (cutLines bytes).1.flatten ++ (cutLines bytes).2 = bytes := by
  induction bytes with
  | nil => rfl
  | cons b rest ih =>
    rcases cut : cutLines rest with ⟨_ | ⟨line, lines⟩, tail⟩ <;>
      rw [cut] at ih <;> simp only [cutLines, cut] <;> split <;> simpa using ih

/-- Puts bytes that came before in front of the first piece. -/
def prepend (held : List UInt8) :
    List (List UInt8) × List UInt8 → List (List UInt8) × List UInt8
  | ([], tail) => ([], held ++ tail)
  | (line :: lines, tail) => ((held ++ line) :: lines, tail)

/-- The reads of a connection that ends by itself. -/
def reads (held : List UInt8) : List Arrival → List Read
  | [] => if held = [] then [.taken []] else [.taken held, .taken []]
  | .pause :: rest => .timedOut held :: reads [] rest
  | .interrupt :: rest => .interrupted held :: reads [] rest
  | .chunk bytes :: rest =>
    let (lines, tail) := prepend held (cutLines bytes)
    lines.map .taken ++ reads tail rest

/-- What a read comes to: the line to publish, if there is one now, and the bytes that are kept
for the next read. Nothing comes after the end of the connection or a failure. -/
def receive (buffer : List UInt8) : Read → Option (Option String × List UInt8)
  | .taken bytes =>
    if bytes = [] then none
    else
      let line := buffer ++ bytes
      if line.getLast? = some newline then some (some (Text.decodeUtf8Lossy line), [])
      else some (none, line)
  | .timedOut bytes | .interrupted bytes => some (none, buffer ++ bytes)
  | .failed _ => none

/-- The lines that come of the reads of a connection. -/
def published (buffer : List UInt8) : List Read → List String
  | [] => []
  | read :: rest =>
    match receive buffer read with
    | none => []
    | some (line, kept) => line.toList ++ published kept rest

/-- The lines of one connection, each with its newline. -/
def lines (arrivals : List Arrival) : List String := published [] (reads [] arrivals)

end EventStream

end EdgeReveal
