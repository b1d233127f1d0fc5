/-
  Foundation/Stream.lean --- one direction of a connection.

  The writer encodes its messages one after the other; the bytes travel in order and
  arrive in pieces; the reader appends each piece to its buffer and takes the frames at
  the front.  Besides the bytes a pipe remembers which messages were written and which
  were taken.  As long as only encoded messages are written, what was taken is what was
  written first, and the reader never meets a malformed frame.
-/
import CollectiveScheduler.Foundation.Framing

set_option autoImplicit false

namespace CollectiveScheduler.Foundation

/-- One direction of a connection. -/
structure Pipe (α M : Type) where
  /-- the messages that were written -/
  sent : List M := []
  /-- the messages that the reader has taken -/
  taken : List M := []
  /-- what the reader holds of a frame that is not complete -/
  buffer : List α := []
  /-- the bytes on their way -/
  transit : List α := []

namespace Pipe

variable {α M : Type}

/-- Write messages. -/
def write (encode : M → List α) (p : Pipe α M) (ms : List M) : Pipe α M :=
  { p with sent := p.sent ++ ms, transit := p.transit ++ (ms.map encode).flatten }

/-- Write bytes that need not be messages. -/
def push (p : Pipe α M) (bytes : List α) : Pipe α M := { p with transit := p.transit ++ bytes }

/-- The messages in the next bytes that arrive, so many at most. -/
def arriving (F : Framer α M) (p : Pipe α M) (n : Nat) : List M :=
  (F.split (p.buffer ++ p.transit.take n)).1

/-- The pipe after these bytes have arrived. -/
def read (F : Framer α M) (p : Pipe α M) (n : Nat) : Pipe α M :=
  { p with
    taken := p.taken ++ p.arriving F n
    buffer := (F.split (p.buffer ++ p.transit.take n)).2
    transit := p.transit.drop n }

variable {F : Framer α M} {encode : M → List α} {p : Pipe α M}

@[simp] theorem write_nil : p.write encode [] = p := by
  simp only [write, List.append_nil, List.map_nil, List.flatten_nil]

theorem write_write (ms ms' : List M) :
    (p.write encode ms).write encode ms' = p.write encode (ms ++ ms') := by
  simp only [write, List.map_append, List.flatten_append, List.append_assoc]

/-- The framer reads the message back, whatever follows it. -/
def Legible (F : Framer α M) (encode : M → List α) (m : M) : Prop :=
  ∀ t, F.scan (encode m ++ t) = .frame m t

/-- What a front of a stream of legible messages holds. -/
theorem split_front {rest : List M} (h : ∀ m ∈ rest, Legible F encode m) {b later : List α}
    (hbytes : (rest.map encode).flatten = b ++ later) :
    ¬F.Broken b ∧ ∃ rest', rest = (F.split b).1 ++ rest' ∧
      (rest'.map encode).flatten = (F.split b).2 ++ later := by
  induction rest generalizing b with
  | nil =>
      obtain ⟨rfl, rfl⟩ := List.append_eq_nil_iff.mp hbytes.symm
      refine ⟨Framer.not_broken_incomplete F.scan_nil, [], ?_, ?_⟩ <;> rw [Framer.split_nil] <;> rfl
  | cons m rest ih =>
      have hm := h m List.mem_cons_self
      rw [List.map_cons, List.flatten_cons] at hbytes
      rcases List.append_eq_append_iff.mp hbytes with ⟨b', hb, hrest⟩ | ⟨c', hb, hlater⟩
      · -- the front covers the first message
        obtain ⟨hbroken, rest', hsplit, hleft⟩ :=
          ih (fun m' hm' => h m' (List.mem_cons_of_mem m hm')) hrest
        have hscan : F.scan b = .frame m b' := by rw [hb, hm b']
        refine ⟨(Framer.broken_frame hscan).not.mpr hbroken, rest', ?_, ?_⟩
        · rw [Framer.split_frame hscan, hsplit]
          simp
        · rw [Framer.split_frame hscan]
          exact hleft
      · have hwhole : F.scan (b ++ c') = .frame m [] := by
          rw [← hb]
          simpa using hm []
        cases c' with
        | nil =>
            -- the front is the first message
            rw [List.append_nil] at hwhole
            refine ⟨(Framer.broken_frame hwhole).not.mpr (Framer.not_broken_incomplete F.scan_nil),
              rest, ?_, ?_⟩
            · rw [Framer.split_frame hwhole, Framer.split_nil]
              rfl
            · rw [Framer.split_frame hwhole, Framer.split_nil, hlater]
              rfl
        | cons a c =>
            -- the first message is not complete
            have hwaits := Framer.scan_of_proper hwhole (List.cons_ne_nil a c)
            refine ⟨Framer.not_broken_incomplete hwaits, m :: rest, ?_, ?_⟩
            · rw [Framer.split_incomplete hwaits]
              rfl
            · rw [Framer.split_incomplete hwaits, List.map_cons, List.flatten_cons]
              exact hbytes

/-- Only legible messages were written, and the reader has taken the first of them. -/
structure Faithful (F : Framer α M) (encode : M → List α) (p : Pipe α M) : Prop where
  legible : ∀ m ∈ p.sent, Legible F encode m
  waits : F.scan p.buffer = .incomplete
  rest : ∃ rest, p.sent = p.taken ++ rest ∧
    (rest.map encode).flatten = p.buffer ++ p.transit

namespace Faithful

theorem empty : Faithful F encode ({} : Pipe α M) :=
  ⟨fun _ hm => absurd hm List.not_mem_nil, F.scan_nil, [], rfl, rfl⟩

theorem write (h : p.Faithful F encode) {ms : List M} (hms : ∀ m ∈ ms, Legible F encode m) :
    (p.write encode ms).Faithful F encode := by
  obtain ⟨rest, hsent, hbytes⟩ := h.rest
  refine ⟨fun m hm => (List.mem_append.mp hm).elim (h.legible m) (hms m), h.waits,
    rest ++ ms, ?_, ?_⟩
  · rw [Pipe.write, hsent, List.append_assoc]
  · rw [List.map_append, List.flatten_append, hbytes, Pipe.write, List.append_assoc]

/-- The front of a faithful pipe is never malformed. -/
theorem not_broken (h : p.Faithful F encode) (n : Nat) :
    ¬F.Broken (p.buffer ++ p.transit.take n) := by
  obtain ⟨rest, hsent, hbytes⟩ := h.rest
  have hrest : ∀ m ∈ rest, Legible F encode m := fun m hm =>
    h.legible m (hsent ▸ List.mem_append_right _ hm)
  rw [← List.take_append_drop n p.transit, ← List.append_assoc] at hbytes
  exact (split_front hrest hbytes).1

theorem read (h : p.Faithful F encode) (n : Nat) : (p.read F n).Faithful F encode := by
  obtain ⟨rest, hsent, hbytes⟩ := h.rest
  have hrest : ∀ m ∈ rest, Legible F encode m := fun m hm =>
    h.legible m (hsent ▸ List.mem_append_right _ hm)
  rw [← List.take_append_drop n p.transit, ← List.append_assoc] at hbytes
  obtain ⟨hbroken, rest', hsplit, hleft⟩ := split_front hrest hbytes
  refine ⟨h.legible, Framer.scan_rest_of_not_broken hbroken, rest', ?_, hleft⟩
  have hkept : (p.read F n).sent = p.sent := rfl
  rw [hkept, hsent, hsplit, Pipe.read, Pipe.arriving, List.append_assoc]

/-- What was taken was written first. -/
theorem taken_first (h : p.Faithful F encode) : p.taken <+: p.sent := by
  obtain ⟨rest, hsent, -⟩ := h.rest
  exact ⟨rest, hsent.symm⟩

/-- What arrives was written. -/
theorem mem_sent_of_arriving (h : p.Faithful F encode) (n : Nat) :
    ∀ m ∈ p.arriving F n, m ∈ p.sent := fun _ hm =>
  (taken_first (h.read n)).subset (List.mem_append_right _ hm)

/-- When no byte is on its way, everything that was written has been taken. -/
theorem taken_eq_sent (h : p.Faithful F encode) (htransit : p.transit = []) :
    p.taken = p.sent := by
  obtain ⟨rest, hsent, hbytes⟩ := h.rest
  rw [htransit, List.append_nil] at hbytes
  cases rest with
  | nil => rw [hsent, List.append_nil]
  | cons m rest =>
      -- the buffer would hold a whole message
      have hm := h.legible m (hsent ▸ List.mem_append_right _ List.mem_cons_self)
      have hwaits := h.waits
      rw [← hbytes, List.map_cons, List.flatten_cons, hm] at hwaits
      cases hwaits

end Faithful

end Pipe

end CollectiveScheduler.Foundation
