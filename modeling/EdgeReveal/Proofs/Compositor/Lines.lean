import EdgeReveal.Compositor.Listener
import EdgeReveal.Proofs.Text.Cutting

/-!
# The lines of the event stream

What the listener publishes depends on the bytes of each connection alone, not on how they arrive:
the segments that end in a newline, connection after connection. A reader may break off anywhere
(`HandsOn` lists how it hands bytes on), so what carries the proof is that the buffer together
with the bytes still to come has the same segments before and after each read.
-/
namespace EdgeReveal

def Arrival.bytes : Arrival → List UInt8
  | .chunk bytes => bytes
  | .pause | .interrupt => []

/-- All bytes of a connection; an attempt that is refused brings none. -/
def Attempt.bytes : Attempt → List UInt8
  | .refused => []
  | .connected arrivals => arrivals.flatMap Arrival.bytes

namespace EventStream

/-- The parts of `bytes` that end in a newline, each with its newline. What stands behind the last
newline is not among them. -/
def segments (bytes : List UInt8) : List (List UInt8) :=
  (bytes.splitOn newline).dropLast.map (· ++ [newline])

variable {bytes body held : List UInt8} {reads : List Read}

theorem segments_of_not_mem (unended : newline ∉ bytes) : segments bytes = [] := by
  rw [segments, List.splitOn_eq_singleton unended]
  rfl

theorem segments_append (unended : newline ∉ body) (rest : List UInt8) :
    segments (body ++ newline :: rest) = (body ++ [newline]) :: segments rest := by
  have others : rest.splitOn newline ≠ [] := List.splitOnP_ne_nil _ _
  rw [segments, Text.splitOn_append_cons unended, List.dropLast_cons_of_ne_nil others,
    List.map_cons, segments]

/-! ### What a reader hands on -/

/-- The ways in which a reader may hand on the bytes of a connection until it ends. A read stops
behind a newline, or where it is broken off, and nothing of what it took is lost; only the end of
the connection makes it return without a newline, and nothing at all the next time. -/
inductive HandsOn : List UInt8 → List Read → Prop
  | ended : HandsOn [] [.taken []]
  | remainder {bytes : List UInt8} (nonempty : bytes ≠ []) (unended : newline ∉ bytes) :
      HandsOn bytes [.taken bytes, .taken []]
  | line {body rest : List UInt8} {reads : List Read} (unended : newline ∉ body)
      (later : HandsOn rest reads) :
      HandsOn (body ++ newline :: rest) (.taken (body ++ [newline]) :: reads)
  | timedOut {front rest : List UInt8} {reads : List Read} (unended : newline ∉ front)
      (later : HandsOn rest reads) : HandsOn (front ++ rest) (.timedOut front :: reads)
  | interrupted {front rest : List UInt8} {reads : List Read} (unended : newline ∉ front)
      (later : HandsOn rest reads) : HandsOn (front ++ rest) (.interrupted front :: reads)

/-- A piece that ends in its only newline. -/
def IsLine (piece : List UInt8) : Prop := ∃ body, newline ∉ body ∧ piece = body ++ [newline]

theorem IsLine.cons {b : UInt8} {piece : List UInt8} (other : b ≠ newline)
    (line : IsLine piece) : IsLine (b :: piece) := by
  obtain ⟨body, unended, rfl⟩ := line
  exact ⟨b :: body, by simp [unended, other.symm], rfl⟩

theorem IsLine.prepend {piece : List UInt8} (unended : newline ∉ held) (line : IsLine piece) :
    IsLine (held ++ piece) := by
  obtain ⟨body, rest, rfl⟩ := line
  exact ⟨held ++ body, by simp [unended, rest], (List.append_assoc ..).symm⟩

theorem cutLines_pieces (bytes : List UInt8) :
    (∀ piece ∈ (cutLines bytes).1, IsLine piece) ∧ newline ∉ (cutLines bytes).2 := by
  induction bytes with
  | nil => simp [cutLines]
  | cons b rest ih =>
    rcases cut : cutLines rest with ⟨_ | ⟨first, lines⟩, tail⟩ <;> rw [cut] at ih <;>
      obtain ⟨pieces, last⟩ := ih <;> simp only [cutLines, cut] <;> split
    next same => exact ⟨by simpa [same] using ⟨[], by simp, rfl⟩, last⟩
    next other => exact ⟨by simp, by simpa [Ne.symm other] using last⟩
    next same =>
      refine ⟨fun piece within => ?_, last⟩
      rcases List.mem_cons.mp within with rfl | within
      · exact ⟨[], by simp, by rw [same]; rfl⟩
      · exact pieces piece within
    next other =>
      refine ⟨fun piece within => ?_, last⟩
      rcases List.mem_cons.mp within with rfl | within
      · exact (pieces first List.mem_cons_self).cons other
      · exact pieces piece (List.mem_cons_of_mem _ within)

/-- What a chunk is cut into when bytes without a newline are held before it. -/
theorem prepend_pieces (unended : newline ∉ held) (bytes : List UInt8) :
    (∀ piece ∈ (prepend held (cutLines bytes)).1, IsLine piece) ∧
      newline ∉ (prepend held (cutLines bytes)).2 ∧
      (prepend held (cutLines bytes)).1.flatten ++ (prepend held (cutLines bytes)).2 =
        held ++ bytes := by
  obtain ⟨pieces, last⟩ := cutLines_pieces bytes
  have whole := flatten_cutLines bytes
  rcases cut : cutLines bytes with ⟨_ | ⟨first, lines⟩, tail⟩ <;>
    rw [cut] at pieces last whole <;> simp only [prepend]
  · refine ⟨by simp, by simp [unended, last], ?_⟩
    rw [← whole]
    rfl
  · refine ⟨fun piece within => ?_, last, ?_⟩
    · rcases List.mem_cons.mp within with rfl | within
      · exact (pieces first List.mem_cons_self).prepend unended
      · exact pieces piece (List.mem_cons_of_mem _ within)
    · rw [← whole, List.flatten_cons, List.flatten_cons]
      simp only [List.append_assoc]

theorem HandsOn.lines {lines : List (List UInt8)} (pieces : ∀ piece ∈ lines, IsLine piece)
    (later : HandsOn bytes reads) :
    HandsOn (lines.flatten ++ bytes) (lines.map .taken ++ reads) := by
  induction lines with
  | nil => exact later
  | cons first lines ih =>
    obtain ⟨body, unended, rfl⟩ := pieces first List.mem_cons_self
    have others := ih fun piece within => pieces piece (List.mem_cons_of_mem _ within)
    have next := HandsOn.line unended others
    simpa only [List.flatten_cons, List.append_assoc, List.cons_append, List.nil_append,
      List.map_cons] using next

/-- However the bytes arrive, the reader hands them on in one of these ways. -/
theorem handsOn_reads (unended : newline ∉ held) (arrivals : List Arrival) :
    HandsOn (held ++ arrivals.flatMap Arrival.bytes) (EventStream.reads held arrivals) := by
  induction arrivals generalizing held with
  | nil =>
    rw [List.flatMap_nil, List.append_nil, EventStream.reads]
    split
    next empty =>
      rw [empty]
      exact .ended
    next nonempty => exact .remainder nonempty unended
  | cons arrival rest ih =>
    rw [List.flatMap_cons]
    cases arrival with
    | pause => exact .timedOut unended (ih List.not_mem_nil)
    | interrupt => exact .interrupted unended (ih List.not_mem_nil)
    | chunk bytes =>
      obtain ⟨pieces, last, whole⟩ := prepend_pieces unended bytes
      have later := (ih last).lines pieces
      rw [← List.append_assoc, whole, List.append_assoc] at later
      exact later

theorem HandsOn.later {read : Read} {buffer kept : List UInt8} {line : Option String}
    (handed : HandsOn bytes (read :: reads)) (received : receive buffer read = some (line, kept)) :
    ∃ rest, HandsOn rest reads := by
  cases handed with
  | ended => simp [receive] at received
  | remainder => exact ⟨[], .ended⟩
  | line _ later | timedOut _ later | interrupted _ later => exact ⟨_, later⟩

/-! ### What is published of it -/

theorem receive_line (buffer body : List UInt8) :
    receive buffer (.taken (body ++ [newline])) =
      some (some (Text.decodeUtf8Lossy (buffer ++ (body ++ [newline]))), []) := by
  simp [receive, ← List.append_assoc]

theorem receive_remainder (buffer : List UInt8) (nonempty : bytes ≠ [])
    (unended : newline ∉ bytes) :
    receive buffer (.taken bytes) = some (none, buffer ++ bytes) := by
  have last : (buffer ++ bytes).getLast? ≠ some newline := by
    rw [List.getLast?_append, List.getLast?_eq_some_getLast nonempty, Option.some_or]
    exact fun last => unended (Option.some.inj last ▸ List.getLast_mem nonempty)
  simp only [receive, if_neg nonempty, if_neg last]

/-- A line is published when its newline has been read, together with all that was kept of it. -/
theorem published_eq (unended : newline ∉ held) (handed : HandsOn bytes reads) :
    published held reads = (segments (held ++ bytes)).map Text.decodeUtf8Lossy := by
  induction handed generalizing held with
  | ended =>
    rw [List.append_nil, segments_of_not_mem unended]
    rfl
  | @remainder bytes nonempty unended' =>
    have joined : newline ∉ held ++ bytes := by simp [unended, unended']
    rw [segments_of_not_mem joined, published, receive_remainder held nonempty unended']
    rfl
  | @line body rest reads unended' later ih =>
    have joined : newline ∉ held ++ body := by simp [unended, unended']
    have rest_lines := ih List.not_mem_nil
    rw [List.nil_append] at rest_lines
    rw [← List.append_assoc, segments_append joined, List.map_cons, ← rest_lines, published,
      receive_line, List.append_assoc]
    rfl
  | @timedOut front rest reads unended' later ih
  | @interrupted front rest reads unended' later ih =>
    have joined : newline ∉ held ++ front := by simp [unended, unended']
    rw [← List.append_assoc, ← ih joined]
    rfl

theorem lines_eq (arrivals : List Arrival) :
    lines arrivals =
      (segments (arrivals.flatMap Arrival.bytes)).map Text.decodeUtf8Lossy :=
  published_eq List.not_mem_nil (handsOn_reads List.not_mem_nil arrivals)

end EventStream

open EventStream (HandsOn segments)

/-- The lines that would be published of an attempt to connect. -/
def Attempt.lines : Attempt → List String
  | .refused => []
  | .connected arrivals => EventStream.lines arrivals

theorem Attempt.lines_eq (attempt : Attempt) :
    attempt.lines = (segments attempt.bytes).map Text.decodeUtf8Lossy := by
  cases attempt with
  | refused => rfl
  | connected arrivals => exact EventStream.lines_eq arrivals

namespace Listener

variable {l : Listener}

def start (attempts : List Attempt) : Listener := { attempts := attempts }

/-! ### Nothing is lost or doubled -/

/-- What is still to be published of the open connection and of the attempts to come. -/
def pending (l : Listener) : List String :=
  (match l.connection with
    | none => []
    | some c => EventStream.published c.buffer c.reads) ++ l.attempts.flatMap Attempt.lines

theorem published_turn (l : Listener) :
    l.turn.published ++ l.turn.pending = l.published ++ l.pending := by
  obtain ⟨attempts, connection, published⟩ := l
  cases connection with
  | none =>
    cases attempts with
    | nil => rfl
    | cons attempt rest =>
      cases attempt with
      | refused => rfl
      | connected arrivals => simp [turn, pending, Attempt.lines, EventStream.lines]
  | some c =>
    obtain ⟨buffer, reads⟩ := c
    cases reads with
    | nil => rfl
    | cons read rest =>
      cases received : EventStream.receive buffer read with
      | none => simp [turn, pending, EventStream.published, received]
      | some kept => simp [turn, pending, EventStream.published, received]

theorem published_run (l : Listener) (turns : Nat) :
    (l.run turns).published ++ (l.run turns).pending = l.published ++ l.pending := by
  induction turns generalizing l with
  | zero => rfl
  | succ turns ih => rw [run, ih, published_turn]

/-! ### Everything is read at last -/

/-- The open connection comes to its end. -/
def Ending (l : Listener) : Prop :=
  ∀ c, l.connection = some c → ∃ bytes, HandsOn bytes c.reads

/-- How many turns an attempt takes, its connection included. -/
def turnsOf : Attempt → Nat
  | .refused => 1
  | .connected arrivals => (EventStream.reads [] arrivals).length + 1

/-- How many turns are left. -/
def work (l : Listener) : Nat :=
  (match l.connection with
    | none => 0
    | some c => c.reads.length) +
  l.attempts.foldr (fun attempt later => turnsOf attempt + later) 0

theorem Ending.turn (ending : l.Ending) : l.turn.Ending := by
  obtain ⟨attempts, connection, published⟩ := l
  cases connection with
  | none =>
    cases attempts with
    | nil => exact ending
    | cons attempt rest =>
      cases attempt with
      | refused => exact ending
      | connected arrivals =>
        rintro c same
        cases same
        exact ⟨_, EventStream.handsOn_reads List.not_mem_nil arrivals⟩
  | some c =>
    obtain ⟨buffer, reads⟩ := c
    cases reads with
    | nil => exact ending
    | cons read rest =>
      obtain ⟨bytes, handed⟩ := ending _ rfl
      intro c same
      cases received : EventStream.receive buffer read with
      | none => simp [Listener.turn, received] at same
      | some kept =>
        simp only [Listener.turn, received, Option.some.injEq] at same
        subst same
        exact handed.later received

theorem work_turn (ending : l.Ending) (busy : l.work ≠ 0) : l.turn.work < l.work := by
  obtain ⟨attempts, connection, published⟩ := l
  cases connection with
  | none =>
    cases attempts with
    | nil => exact absurd rfl busy
    | cons attempt rest =>
      cases attempt with
      | refused => simp [turn, work, turnsOf]
      | connected arrivals => simp [turn, work, turnsOf]
  | some c =>
    obtain ⟨buffer, reads⟩ := c
    cases reads with
    | nil =>
      obtain ⟨bytes, handed⟩ := ending _ rfl
      cases handed
    | cons read rest =>
      cases received : EventStream.receive buffer read with
      | none => simp [turn, work, received]
      | some kept => simp [turn, work, received]

theorem exhausted_of_work (done : l.work = 0) :
    l.attempts = [] ∧ (l.connection = none ∨ ∃ buffer, l.connection = some ⟨buffer, []⟩) := by
  obtain ⟨attempts, connection, published⟩ := l
  obtain ⟨closed, none_left⟩ := Nat.add_eq_zero_iff.mp done
  constructor
  · cases attempts with
    | nil => rfl
    | cons attempt rest => cases attempt <;> simp [turnsOf] at none_left
  · rcases connection with _ | ⟨buffer, _ | ⟨read, rest⟩⟩
    · exact .inl rfl
    · exact .inr ⟨buffer, rfl⟩
    · cases closed

theorem turn_of_done (done : l.work = 0) : l.turn = l := by
  obtain ⟨attempts, closed | ⟨buffer, closed⟩⟩ := exhausted_of_work done
  · simp only [turn, closed, attempts]
  · simp only [turn, closed]

theorem pending_of_done (done : l.work = 0) : l.pending = [] := by
  obtain ⟨attempts, closed | ⟨buffer, closed⟩⟩ := exhausted_of_work done
  · simp only [pending, closed, attempts, List.flatMap_nil, List.append_nil]
  · simp only [pending, closed, attempts, EventStream.published, List.flatMap_nil, List.append_nil]

/-- A turn that finds something to do leaves less to do. -/
theorem pending_run (ending : l.Ending) {turns : Nat} (enough : l.work ≤ turns) :
    (l.run turns).pending = [] := by
  induction turns generalizing l with
  | zero => exact pending_of_done (Nat.le_zero.mp enough)
  | succ turns ih =>
    rw [run]
    refine ih ending.turn ?_
    by_cases done : l.work = 0
    · rw [turn_of_done done, done]
      exact Nat.zero_le _
    · have less := work_turn ending done
      omega

/-- Whenever the listener is told to stop, it has published a beginning of the segments that end
in a newline, connection after connection and each decoded as a whole; in time it publishes them
all. Connection by connection these are the lines of `EventStream.lines`. -/
theorem published_segments (attempts : List Attempt) :
    let all := attempts.flatMap fun attempt =>
      (segments attempt.bytes).map Text.decodeUtf8Lossy
    (∀ turns, ((start attempts).run turns).published <+: all) ∧
    (∃ enough, ∀ more, ((start attempts).run (enough + more)).published = all) ∧
    all = attempts.flatMap Attempt.lines := by
  intro all
  have same : all = attempts.flatMap Attempt.lines :=
    congrArg (attempts.flatMap ·) (funext fun attempt => attempt.lines_eq.symm)
  have whole (turns : Nat) : ((start attempts).run turns).published ++
      ((start attempts).run turns).pending = all := by
    rw [published_run, same]
    rfl
  refine ⟨fun turns => ⟨_, whole turns⟩, ⟨(start attempts).work, fun more => ?_⟩, same⟩
  have ending : (start attempts).Ending := fun c connected => by cases connected
  rw [← whole ((start attempts).work + more), pending_run ending (Nat.le_add_right _ _),
    List.append_nil]

/-- A character cut in two by a pause, and a remainder that does not get into the next line. -/
example :
    ((start [.connected [.chunk [0x61, 0xC3], .pause, .chunk [0xA9, 10, 0x62]], .refused,
      .connected [.interrupt, .chunk [0x63, 10]]]).run 12).published = ["aé\n", "c\n"] := by
  decide

end Listener

end EdgeReveal
