/-
**The line reader of the stdio transport (`stdio.py`, `_CancellableStdin`).**

The reader carries what it has read of a line from one read to the next. Waiting until the descriptor is readable
changes nothing of what is read, and is left out.

* `Reader.next`: `__anext__`, with what the descriptor has left to give;
* `Yields`: what a reader yields until it stops;
* `yields_iff`: these are the lines of the stream, however it was cut into chunks.
-/

import Mathlib.Data.List.TakeWhile
import AxiomMcp.Lib.Lines
import AxiomMcp.Lib.Utf8

namespace AxiomMcp.Transport

open Lib

/-- What one `os.read` returns before the end of the stream. -/
structure Chunk where
  bytes : Bytes
  some : bytes ≠ []

/-- The bytes that a descriptor has left to give. -/
def stream (chunks : List Chunk) : Bytes := (chunks.map Chunk.bytes).flatten

/-- `_CancellableStdin` -/
structure Reader where
  pending : Bytes
  eof : Bool

namespace Reader

/-- `_CancellableStdin(stream)` -/
def new : Reader := ⟨[], false⟩

/-- `self._pending.find(b"\\n")`: the line up to it, and what follows. -/
def line? (reader : Reader) : Option (Bytes × Bytes) :=
  match reader.pending.span fun byte => byte ≠ 0x0a with
  | (_, []) => none
  | (line, newline :: rest) => some (line ++ [newline], rest)

/-- The reader knows the end of the stream: the remainder, or `StopAsyncIteration`. -/
def atEnd (reader : Reader) : Option Bytes × Reader :=
  if reader.pending = [] then (none, reader) else (some reader.pending, { reader with pending := [] })

/-- `__anext__`: a line before it is decoded, if there is one, and what is left of reader and descriptor. -/
def next : List Chunk → Reader → Option Bytes × Reader × List Chunk
  | chunks, reader =>
    match reader.line? with
    | some (line, rest) => (some line, { reader with pending := rest }, chunks)
    | none =>
      if reader.eof then (reader.atEnd.1, reader.atEnd.2, chunks)
      else
        match chunks with
        -- An empty read. The loop goes round again, and finds no newline again.
        | [] => (({ reader with eof := true } : Reader).atEnd.1, ({ reader with eof := true } : Reader).atEnd.2, [])
        | chunk :: chunks => next chunks { reader with pending := reader.pending ++ chunk.bytes }

end Reader

/-- What a reader yields until it stops, each line decoded by itself, and what is left then. -/
inductive Yields (decode : Bytes → Text) : Reader → List Chunk → List Text → Reader → List Chunk → Prop
  | stop {reader reader' : Reader} {chunks chunks' : List Chunk}
    (stops : reader.next chunks = (none, reader', chunks')) :
      Yields decode reader chunks [] reader' chunks'
  | line {reader reader' last : Reader} {chunks chunks' rest : List Chunk} {bytes : Bytes} {lines : List Text}
      (yields : reader.next chunks = (some bytes, reader', chunks'))
      (more : Yields decode reader' chunks' lines last rest) :
      Yields decode reader chunks (decode bytes :: lines) last rest

/-- The byte that ends a line. -/
def isNewline (byte : Byte) : Bool := byte = 0x0a

/-! ### One line -/

section Line

variable {reader reader' : Reader} {chunks chunks' : List Chunk}

theorem line?_some {line rest : Bytes} (found : reader.line? = some (line, rest)) :
    ∃ start, (∀ byte ∈ start, isNewline byte = false) ∧ line = start ++ [0x0a] ∧
      reader.pending = start ++ 0x0a :: rest := by
  unfold Reader.line? at found
  rw [List.span_eq_takeWhile_dropWhile] at found
  split at found
  · cases found
  · next start newline after parts =>
    obtain ⟨rfl, rfl⟩ := Prod.mk.inj (Option.some.inj found)
    obtain ⟨begins, ends⟩ := Prod.mk.inj parts
    have none : ∀ byte ∈ start, isNewline byte = false := by
      intro byte member
      rw [← begins] at member
      have kept := List.mem_takeWhile_imp member
      exact decide_eq_false (of_decide_eq_true kept)
    have same : newline = 0x0a := by
      have head := List.head?_dropWhile_not (fun byte : Byte => decide (byte ≠ 0x0a)) reader.pending
      rw [ends] at head
      simpa using head
    subst same
    refine ⟨start, none, rfl, ?_⟩
    rw [← begins, ← ends, List.takeWhile_append_dropWhile]

theorem line?_none (missing : reader.line? = none) : ∀ byte ∈ reader.pending, isNewline byte = false := by
  unfold Reader.line? at missing
  rw [List.span_eq_takeWhile_dropWhile] at missing
  split at missing
  · next start parts =>
    have nothing : reader.pending.dropWhile (fun byte => decide (byte ≠ 0x0a)) = [] := (Prod.mk.inj parts).2
    intro byte member
    exact decide_eq_false (of_decide_eq_true (List.dropWhile_eq_nil_iff.mp nothing byte member))
  · cases missing

/-- Once the reader knows the end of the stream, there is nothing left to read. -/
def Consistent (reader : Reader) (chunks : List Chunk) : Prop := reader.eof = true → chunks = []

/-- What is still to come. -/
def remaining (reader : Reader) (chunks : List Chunk) : Bytes := reader.pending ++ stream chunks

/-- A reader at the end of the stream. -/
def Finished (reader : Reader) : Prop := reader.pending = [] ∧ reader.eof = true

/-- What one `__anext__` does: the first of the lines to come, or nothing because there is none. -/
inductive Turn (reader : Reader) (chunks : List Chunk) : Option Bytes × Reader × List Chunk → Prop
  | stop {reader' : Reader} (nothing : remaining reader chunks = []) (finished : Finished reader') :
      Turn reader chunks (none, reader', [])
  | line {bytes : Bytes} {reader' : Reader} {chunks' : List Chunk} (consistent : Consistent reader' chunks')
      (first : splitAfter isNewline (remaining reader chunks) = bytes :: splitAfter isNewline
        (remaining reader' chunks')) :
      Turn reader chunks (some bytes, reader', chunks')

/-- A rest without a newline, at the end of the stream. -/
theorem turn_atEnd (reader : Reader) (last : reader.eof = true)
    (unended : ∀ byte ∈ reader.pending, isNewline byte = false) (previous : Reader)
    (same : previous.pending = reader.pending) :
    Turn previous [] (reader.atEnd.1, reader.atEnd.2, []) := by
  have whole : remaining previous [] = reader.pending := by
    rw [remaining, same]
    exact List.append_nil _
  unfold Reader.atEnd
  split
  · next nothing => exact .stop (whole.trans nothing) ⟨nothing, last⟩
  · next some =>
    refine .line (fun _ => rfl) ?_
    rw [whole, splitAfter_rest unended some]
    rfl

/-- **One line.** -/
theorem next_turn (consistent : Consistent reader chunks) : Turn reader chunks (reader.next chunks) := by
  induction chunks generalizing reader with
  | nil =>
    unfold Reader.next
    split
    · next line rest found =>
      obtain ⟨start, unended, rfl, parts⟩ := line?_some found
      refine .line consistent ?_
      rw [remaining, parts, List.append_assoc, List.cons_append, splitAfter_line unended rfl]
      rfl
    · next missing =>
      split
      · next last => exact turn_atEnd reader last (line?_none missing) reader rfl
      · exact turn_atEnd { reader with eof := true } rfl (line?_none missing) reader rfl
  | cons chunk chunks ih =>
    unfold Reader.next
    split
    · next line rest found =>
      obtain ⟨start, unended, rfl, parts⟩ := line?_some found
      refine .line consistent ?_
      rw [remaining, parts, List.append_assoc, List.cons_append, splitAfter_line unended rfl]
      rfl
    · next missing =>
      split
      · next last => cases consistent last
      · next more =>
        have whole : remaining { reader with pending := reader.pending ++ chunk.bytes } chunks =
            remaining reader (chunk :: chunks) := List.append_assoc _ _ _
        have turn := @ih { reader with pending := reader.pending ++ chunk.bytes } fun last => absurd last more
        show Turn reader (chunk :: chunks)
          (Reader.next chunks { reader with pending := reader.pending ++ chunk.bytes })
        revert turn
        generalize Reader.next chunks _ = result
        rintro (⟨nothing, finished⟩ | ⟨after, first⟩)
        · exact .stop (whole ▸ nothing) finished
        · exact .line after (whole ▸ first)

end Line

/-! ### All lines -/

section Lines

variable {decode : Bytes → Text} {reader last : Reader} {chunks rest : List Chunk} {lines : List Text}

theorem yields_lines (yields : Yields decode reader chunks lines last rest)
    (consistent : Consistent reader chunks) :
    lines = (splitAfter isNewline (remaining reader chunks)).map decode ∧ Finished last ∧ rest = [] := by
  induction yields with
  | stop stops =>
    have turn := next_turn consistent
    rw [stops] at turn
    cases turn with
    | stop nothing finished =>
      rw [nothing]
      exact ⟨rfl, finished, rfl⟩
  | line yields _ ih =>
    have turn := next_turn consistent
    rw [yields] at turn
    cases turn with
    | line after first =>
      obtain ⟨same, finished, nothing⟩ := ih after
      rw [first, same]
      exact ⟨rfl, finished, nothing⟩

/-- The reader does come to its end. -/
theorem yields_some (decode : Bytes → Text) (consistent : Consistent reader chunks) :
    ∃ last rest, Yields decode reader chunks
      ((splitAfter isNewline (remaining reader chunks)).map decode) last rest := by
  generalize same : splitAfter isNewline (remaining reader chunks) = parts
  induction parts generalizing reader chunks with
  | nil =>
    have turn := next_turn consistent
    revert turn
    generalize called : reader.next chunks = result
    rintro (⟨nothing, finished⟩ | ⟨after, first⟩)
    · exact ⟨_, _, .stop called⟩
    · cases same.symm.trans first
  | cons part parts ih =>
    have turn := next_turn consistent
    revert turn
    generalize called : reader.next chunks = result
    rintro (⟨nothing, finished⟩ | ⟨after, first⟩)
    · rw [nothing] at same
      cases same
    · obtain ⟨rfl, others⟩ := List.cons.inj (same.symm.trans first)
      obtain ⟨last, rest, more⟩ := ih after others.symm
      exact ⟨last, rest, .line called more⟩

/-- A reader that has stopped reads nothing any more. -/
theorem next_finished (finished : Finished last) (chunks : List Chunk) :
    last.next chunks = (none, last, chunks) := by
  obtain ⟨pending, eof⟩ := last
  obtain ⟨rfl, rfl⟩ := finished
  cases chunks <;> rfl

end Lines

/-- **The lines do not depend on the cuts.** A reader yields the lines of the whole stream, each
decoded by itself, in order and to the last byte; then it stops, and reads nothing any more. -/
theorem stdin_lines (decode : Bytes → Text) (chunks : List Chunk) :
    (∀ lines, (∃ last rest, Yields decode .new chunks lines last rest) ↔
      lines = (splitAfter isNewline (stream chunks)).map decode) ∧
    (splitAfter isNewline (stream chunks)).flatten = stream chunks ∧
    ∀ lines last rest, Yields decode .new chunks lines last rest →
      rest = [] ∧ ∀ later, last.next later = (none, last, later) := by
  have fresh : Consistent .new chunks := fun wrong => nomatch wrong
  refine ⟨fun lines => ⟨?_, ?_⟩, flatten_splitAfter _, fun lines last rest yields => ?_⟩
  · rintro ⟨last, rest, yields⟩
    exact (yields_lines yields fresh).1
  · rintro rfl
    exact yields_some decode fresh
  · obtain ⟨_, finished, nothing⟩ := yields_lines yields fresh
    exact ⟨nothing, next_finished finished⟩

end AxiomMcp.Transport
