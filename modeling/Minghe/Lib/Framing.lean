import Mathlib.Data.List.Basic
import Mathlib.Data.List.Infix

/-!
# Messages out of a byte stream

A `Framer` looks at the bytes received so far and says whether they start with a complete message,
with the beginning of one, or with something that is none. Its laws: no bytes are the beginning of a
message, a complete message is not empty and lies within the bytes, and neither answer that is not
"incomplete" changes when more bytes come.

`drain` takes complete messages off a buffer until it cannot; it ends because messages are not empty.
`Framer.read` is a connection that drains its buffer after each piece that arrives, and closes on an
invalid frame or when more than `limit` bytes are left over.

Results:
* `frame_of_part`: the beginning of a message is incomplete.
* `drain_messages`: the messages of a stream come out one by one, and nothing of what follows them.
* `read_stream`: **however a stream of messages is cut into pieces**, the messages come out in
  order, and the connection closes early only in an invalid frame.
-/

namespace Minghe.Lib

variable {B : Type}

/-- What a framer sees at the head of a buffer. -/
inductive Frame where
  | complete (n : Nat)
  | incomplete
  | invalid
  deriving DecidableEq, Repr

/-- A framer and its laws. -/
structure Framer (B : Type) where
  frame : List B → Frame
  frame_nil : frame [] = .incomplete
  complete_pos : ∀ {b n}, frame b = .complete n → 0 < n ∧ n ≤ b.length
  complete_append : ∀ {b n} (x : List B), frame b = .complete n → frame (b ++ x) = .complete n
  invalid_append : ∀ {b} (x : List B), frame b = .invalid → frame (b ++ x) = .invalid

namespace Framer

variable (F : Framer B)

/-- A message, framed as a whole. -/
def Message (m : List B) : Prop := F.frame m = .complete m.length

variable {F}

theorem Message.ne_nil {m : List B} (h : F.Message m) : m ≠ [] := by
  rintro rfl
  exact absurd (F.complete_pos h).1 (Nat.lt_irrefl _)

/-- **The beginning of a message is incomplete.** -/
theorem frame_of_part {m p q : List B} (h : F.Message m) (hm : m = p ++ q) (hq : q ≠ []) :
    F.frame p = .incomplete := by
  subst hm
  have hlen : p.length < (p ++ q).length := by
    have := List.length_pos_iff.mpr hq
    rw [List.length_append]
    omega
  unfold Message at h
  cases hp : F.frame p with
  | complete n =>
    rw [F.complete_append q hp] at h
    have := (F.complete_pos hp).2
    cases h
    omega
  | incomplete => rfl
  | invalid => rw [F.invalid_append q hp] at h; cases h

/-- The beginning of an invalid frame is incomplete or already invalid. -/
theorem frame_of_part_invalid {p q : List B} (h : F.frame (p ++ q) = .invalid) :
    F.frame p = .incomplete ∨ F.frame p = .invalid := by
  cases hp : F.frame p with
  | complete n => rw [F.complete_append q hp] at h; cases h
  | incomplete => exact .inl rfl
  | invalid => exact .inr rfl

/-! ## Draining a buffer -/

variable (F)

/-- Take messages off the buffer while there are complete ones: the messages, what is left, and
whether that is an invalid frame. -/
def drain (buffer : List B) : List (List B) × List B × Bool :=
  match _h : F.frame buffer with
  | .complete n =>
    let (ms, rest, bad) := drain (buffer.drop n)
    (buffer.take n :: ms, rest, bad)
  | .incomplete => ([], buffer, false)
  | .invalid => ([], buffer, true)
termination_by buffer.length
decreasing_by
  have := F.complete_pos _h
  rw [List.length_drop]
  omega

variable {F}

theorem drain_of_complete {b : List B} {n : Nat} (h : F.frame b = .complete n) :
    F.drain b = (b.take n :: (F.drain (b.drop n)).1, (F.drain (b.drop n)).2) := by
  rw [drain]
  split
  · rename_i n' h'
    rw [h] at h'
    cases h'
    rfl
  · rename_i h'; rw [h] at h'; cases h'
  · rename_i h'; rw [h] at h'; cases h'

theorem drain_of_incomplete {b : List B} (h : F.frame b = .incomplete) :
    F.drain b = ([], b, false) := by
  rw [drain]
  split <;> simp_all

theorem drain_of_invalid {b : List B} (h : F.frame b = .invalid) : F.drain b = ([], b, true) := by
  rw [drain]
  split <;> simp_all

/-- A message comes off the front whole. -/
theorem drain_cons {m : List B} (h : F.Message m) (x : List B) :
    F.drain (m ++ x) = (m :: (F.drain x).1, (F.drain x).2) := by
  rw [drain_of_complete (F.complete_append x h), List.take_left, List.drop_left]

/-- **The messages of a stream come out one by one.** -/
theorem drain_messages : ∀ {ms : List (List B)} (x : List B), (∀ m ∈ ms, F.Message m) →
    F.drain (ms.flatten ++ x) = (ms ++ (F.drain x).1, (F.drain x).2)
  | [], _, _ => rfl
  | m :: ms, x, h => by
    have ih := drain_messages x fun m' hm => h m' (List.mem_cons_of_mem _ hm)
    rw [List.flatten_cons, List.append_assoc, drain_cons (h m List.mem_cons_self), ih]
    rfl

/-! ## Reading a stream -/

/-- A connection: the bytes not yet taken off, the messages taken off, and whether it still reads. -/
structure Reader (B : Type) where
  buffer : List B
  messages : List (List B)
  alive : Bool
  deriving DecidableEq, Repr

/-- A connection that has read nothing. -/
def Reader.start : Reader B := ⟨[], [], true⟩

variable (F) in
/-- One piece arrives: append, drain, and close on an invalid frame or an overfull buffer. -/
def read (limit : Nat) (r : Reader B) (piece : List B) : Reader B :=
  if r.alive then
    let (ms, rest, bad) := F.drain (r.buffer ++ piece)
    ⟨rest, r.messages ++ ms, !(bad || decide (limit < rest.length))⟩
  else r

variable (F) in
/-- A whole stream, piece by piece. -/
def readAll (limit : Nat) (r : Reader B) (pieces : List (List B)) : Reader B :=
  pieces.foldl (F.read limit) r

/-- What may follow the messages of a stream: nothing, the beginning of one more message, or an
invalid frame, within the limit. -/
inductive Tail (F : Framer B) (limit : Nat) : List B → Prop where
  | nil : Tail F limit []
  | part {t q} (h : F.Message (t ++ q)) (hq : q ≠ []) (hlen : (t ++ q).length ≤ limit) :
      Tail F limit t
  | invalid {t} (h : F.frame t = .invalid) (hlen : t.length ≤ limit) : Tail F limit t

theorem Tail.mono {limit limit' : Nat} {t : List B} (h : Tail F limit t) (hle : limit ≤ limit') :
    Tail F limit' t := by
  cases h with
  | nil => exact .nil
  | part hm hq hlen => exact .part hm hq (hlen.trans hle)
  | invalid hi hlen => exact .invalid hi (hlen.trans hle)

/-- The beginning of a tail is within the limit, and incomplete or invalid. -/
theorem Tail.part_cases {limit : Nat} {b x : List B} (h : Tail F limit (b ++ x)) :
    b.length ≤ limit ∧ (F.frame b = .incomplete ∨ F.frame b = .invalid) := by
  generalize ht : b ++ x = t at h
  cases h with
  | nil =>
    rw [List.append_eq_nil_iff] at ht
    rw [ht.1]
    exact ⟨Nat.zero_le _, .inl F.frame_nil⟩
  | @part _ q hm hq hlen =>
    subst ht
    rw [List.append_assoc] at hm hlen
    refine ⟨by rw [List.length_append] at hlen; omega, .inl (frame_of_part hm rfl ?_)⟩
    simp [hq]
  | invalid hi hlen =>
    subst ht
    exact ⟨by rw [List.length_append] at hlen; omega, frame_of_part_invalid hi⟩

/-- What draining the beginning `b` of a stream leaves: nothing of it is lost, the messages are the
stream's first ones, and what is left is short and incomplete, or an invalid frame after them all. -/
theorem drain_part {limit : Nat} : ∀ {ms : List (List B)} {t b x : List B},
    (∀ m ∈ ms, F.Message m ∧ m.length ≤ limit) → Tail F limit t → b ++ x = ms.flatten ++ t →
    ∃ done todo rest, ms = done ++ todo ∧ b = done.flatten ++ rest ∧ rest.length ≤ limit ∧
      ((F.drain b = (done, rest, false) ∧ F.frame rest = .incomplete) ∨
        (F.drain b = (done, rest, true) ∧ todo = [] ∧ F.frame rest = .invalid))
  | [], t, b, x, _, ht, hb => by
    rw [List.flatten_nil, List.nil_append] at hb
    subst hb
    obtain ⟨hlen, hi | hi⟩ := ht.part_cases
    · exact ⟨[], [], b, rfl, rfl, hlen, .inl ⟨drain_of_incomplete hi, hi⟩⟩
    · exact ⟨[], [], b, rfl, rfl, hlen, .inr ⟨drain_of_invalid hi, rfl, hi⟩⟩
  | m :: ms, t, b, x, hms, ht, hb => by
    obtain ⟨hm, hlen⟩ := hms m List.mem_cons_self
    rw [List.flatten_cons, List.append_assoc] at hb
    rcases List.append_eq_append_iff.mp hb with ⟨y, hy, -⟩ | ⟨b', rfl, hb'⟩
    · cases y with
      | nil =>
        -- `b` is the whole message
        rw [List.append_nil] at hy
        subst hy
        refine ⟨[m], ms, [], rfl, by simp, Nat.zero_le _, .inl ⟨?_, F.frame_nil⟩⟩
        have := drain_cons hm []
        rwa [List.append_nil, drain_of_incomplete F.frame_nil] at this
      | cons c y =>
        -- the message has not arrived in full
        have hi := frame_of_part hm hy (List.cons_ne_nil c y)
        refine ⟨[], m :: ms, b, rfl, rfl, ?_, .inl ⟨drain_of_incomplete hi, hi⟩⟩
        rw [hy, List.length_append] at hlen
        omega
    · obtain ⟨done, todo, rest, h1, h2, h3, h4⟩ := drain_part (x := x)
        (fun m' h' => hms m' (List.mem_cons_of_mem _ h')) ht hb'.symm
      refine ⟨m :: done, todo, rest, by rw [h1]; rfl, by rw [h2]; simp, h3, ?_⟩
      rw [drain_cons hm]
      rcases h4 with ⟨h4, h5⟩ | ⟨h4, h5⟩
      · exact .inl ⟨by rw [h4], h5⟩
      · exact .inr ⟨by rw [h4], h5⟩

/-- The connection after it has read `p` of a stream with messages `ms`: still open, with the first
messages taken off and an incomplete rest in the buffer, or closed, in an invalid frame after all of
them. -/
def Reads (F : Framer B) (ms : List (List B)) (p : List B) (r : Reader B) : Prop :=
  (∃ done todo rest, ms = done ++ todo ∧ p = done.flatten ++ rest ∧ r = ⟨rest, done, true⟩ ∧
    F.frame rest = .incomplete) ∨
  (∃ u, p = ms.flatten ++ u ∧ F.frame u = .invalid ∧ r.messages = ms ∧ r.alive = false)

/-- One piece. -/
theorem Reads.step {limit : Nat} {ms : List (List B)} {t p piece x : List B} {r : Reader B}
    (hms : ∀ m ∈ ms, F.Message m ∧ m.length ≤ limit) (ht : Tail F limit t)
    (hp : p ++ piece ++ x = ms.flatten ++ t) (hr : F.Reads ms p r) :
    F.Reads ms (p ++ piece) (F.read limit r piece) := by
  rcases hr with ⟨done, todo, rest, rfl, rfl, rfl, -⟩ | ⟨u, rfl, hu, hm, ha⟩
  · have hrest : (rest ++ piece) ++ x = todo.flatten ++ t := by
      simpa [List.append_assoc] using hp
    obtain ⟨done', todo', rest', rfl, h2, h3, h4⟩ := drain_part
      (fun m h => hms m (List.mem_append_right _ h)) ht hrest
    have hlim : decide (limit < rest'.length) = false := by simp; omega
    rcases h4 with ⟨h4, h5⟩ | ⟨h4, rfl, h5⟩
    · refine .inl ⟨done ++ done', todo', rest', by simp, ?_, ?_, h5⟩
      · rw [List.append_assoc, h2]; simp
      · simp only [read, if_true, h4, hlim]; rfl
    · refine .inr ⟨rest', ?_, h5, ?_, ?_⟩
      · rw [List.append_assoc, h2]; simp
      · simp only [read, if_true, h4, List.append_nil]
      · simp only [read, if_true, h4]; rfl
  · have hread : F.read limit r piece = r := by rw [read, ha]; rfl
    rw [hread]
    exact .inr ⟨u ++ piece, by simp, F.invalid_append piece hu, hm, ha⟩

/-- Any number of pieces. -/
theorem Reads.run {limit : Nat} {ms : List (List B)} {t : List B}
    (hms : ∀ m ∈ ms, F.Message m ∧ m.length ≤ limit) (ht : Tail F limit t) :
    ∀ {pieces : List (List B)} {p x : List B} {r : Reader B},
      p ++ pieces.flatten ++ x = ms.flatten ++ t → F.Reads ms p r →
      F.Reads ms (p ++ pieces.flatten) (F.readAll limit r pieces)
  | [], p, x, r, _, hr => by simpa [readAll] using hr
  | piece :: pieces, p, x, r, hp, hr => by
    rw [List.flatten_cons, ← List.append_assoc] at hp ⊢
    have hstep : F.Reads ms (p ++ piece) (F.read limit r piece) :=
      hr.step hms ht (x := pieces.flatten ++ x) (by simpa using hp)
    exact Reads.run hms ht hp hstep

/-- An open connection is not in an invalid frame. -/
theorem Reads.alive_iff {ms : List (List B)} {p : List B} {r : Reader B} (hms : ∀ m ∈ ms, F.Message m)
    (hr : F.Reads ms p r) :
    r.alive = false ↔ ∃ u, p = ms.flatten ++ u ∧ F.frame u = .invalid := by
  rcases hr with ⟨done, todo, rest, rfl, rfl, rfl, hrest⟩ | ⟨u, hp, hu, -, ha⟩
  · refine iff_of_false (by simp) ?_
    rintro ⟨u, hu, hi⟩
    have hr : rest = todo.flatten ++ u := by simpa using hu
    cases todo with
    | nil => rw [hr, List.flatten_nil, List.nil_append, hi] at hrest; cases hrest
    | cons m todo =>
      have hm := F.complete_append (todo.flatten ++ u) (hms m (by simp))
      rw [hr, List.flatten_cons, List.append_assoc, hm] at hrest
      cases hrest
  · exact iff_of_true ha ⟨u, hp, hu⟩

/-- **However a stream is cut, its messages come out in order.** After all pieces exactly the stream's
messages have been taken off; and after any number of pieces the connection has closed iff the bytes
read so far end in an invalid frame behind all the messages. -/
theorem read_stream {limit : Nat} {ms : List (List B)} {t : List B} {pieces : List (List B)}
    (hms : ∀ m ∈ ms, F.Message m ∧ m.length ≤ limit) (ht : Tail F limit t)
    (hp : pieces.flatten = ms.flatten ++ t) :
    (F.readAll limit .start pieces).messages = ms ∧
      ∀ done, done <+: pieces →
        ((F.readAll limit .start done).alive = false ↔
          ∃ u, done.flatten = ms.flatten ++ u ∧ F.frame u = .invalid) := by
  have hms' : ∀ m ∈ ms, F.Message m := fun m h => (hms m h).1
  have hstart : F.Reads ms [] .start := .inl ⟨[], ms, [], rfl, rfl, rfl, F.frame_nil⟩
  have hrun : ∀ done, done <+: pieces → F.Reads ms done.flatten (F.readAll limit .start done) := by
    rintro done ⟨more, rfl⟩
    rw [List.flatten_append] at hp
    exact Reads.run hms ht (p := []) (x := more.flatten) (by simpa using hp) hstart
  refine ⟨?_, fun done hd => (hrun done hd).alive_iff hms'⟩
  rcases hrun pieces (List.prefix_refl _) with ⟨done, todo, rest, rfl, h2, h3, h4⟩ | ⟨u, -, -, hm, -⟩
  · have hr : rest = todo.flatten ++ t := by
      rw [hp] at h2
      simpa using h2.symm
    cases todo with
    | nil => rw [h3, List.append_nil]
    | cons m todo =>
      have hm := F.complete_append (todo.flatten ++ t) (hms' m (by simp))
      rw [hr, List.flatten_cons, List.append_assoc, hm] at h4
      cases h4
  · exact hm

end Framer

end Minghe.Lib
