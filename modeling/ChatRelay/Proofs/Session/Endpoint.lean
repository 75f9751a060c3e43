import ChatRelay.Session.Endpoint

/-!
# Two directions of a connection

What a connection has sent (`Endpoint.sent`) is changed by writing and half-closing only, and what
there is to be read of it (`Endpoint.inbound`) by reading only. Who reads until it would block has
read all that there was, up to the answer that said so (`ReadOut`).
-/

namespace ChatRelay

namespace Endpoint

/-! ## What has been sent -/

/-- What can be seen of an endpoint from the other side, with the answer of the last write. -/
def sent (e : Endpoint) : Bytes × Nat × Option WriteAnswer := (e.written, e.halfCloses, e.lastWrite)

@[simp] theorem sent_read (e : Endpoint) (limit : Nat) : (e.read limit).2.sent = e.sent := by
  unfold read
  split <;> rfl

@[simp] theorem sent_undergo (e : Endpoint) (change : Change) :
    (e.undergo change).sent = e.sent := by
  cases change <;> rfl

theorem sent_of_read {e e' : Endpoint} {limit : Nat} {answer : ReadAnswer}
    (h : e.read limit = (answer, e')) : e'.sent = e.sent := by
  have hsent := e.sent_read limit
  rwa [h] at hsent

@[simp] theorem sent_discard (e : Endpoint) : e.discard.2.sent = e.sent := by
  fun_induction discard e with
  | case1 e e' hread => exact sent_of_read hread
  | case2 e b bytes e' hread ih => exact ih.trans (sent_of_read hread)
  | case3 e fault e' hread => exact sent_of_read hread

/-- A write leaves what arrives as it is, and notes its answer. -/
theorem write_rest (e : Endpoint) (bytes : Bytes) :
    (e.write bytes).2.arrivals = e.arrivals ∧ (e.write bytes).2.atEnd = e.atEnd ∧
      (e.write bytes).2.halfCloses = e.halfCloses ∧
      (e.write bytes).2.lastWrite = some (e.write bytes).1 := by
  unfold write
  split
  · exact ⟨rfl, rfl, rfl, rfl⟩
  · exact ⟨rfl, rfl, rfl, rfl⟩
  · split
    · exact ⟨rfl, rfl, rfl, rfl⟩
    · exact ⟨rfl, rfl, rfl, rfl⟩

theorem lastWrite_of_write {e e' : Endpoint} {bytes : Bytes} {answer : WriteAnswer}
    (h : e.write bytes = (answer, e')) : e'.lastWrite = some answer := by
  have hrest := e.write_rest bytes
  rw [h] at hrest
  exact hrest.2.2.2

/-! ## What there is to be read -/

/-- What the next reads will find, with the answer of the last one. -/
def inbound (e : Endpoint) : List Arrival × Bool × Option ReadAnswer :=
  (e.arrivals, e.atEnd, e.lastRead)

@[simp] theorem inbound_write (e : Endpoint) (bytes : Bytes) :
    (e.write bytes).2.inbound = e.inbound := by
  unfold write
  split
  · rfl
  · rfl
  · split <;> rfl

theorem inbound_of_write {e e' : Endpoint} {bytes : Bytes} {answer : WriteAnswer}
    (h : e.write bytes = (answer, e')) : e'.inbound = e.inbound := by
  have hinbound := e.inbound_write bytes
  rwa [h] at hinbound

variable {e e' e'' : Endpoint}

theorem lastRead_of_read (h : e.read limit = (answer, e')) : e'.lastRead = some answer := by
  unfold Endpoint.read at h
  split at h
  all_goals
    simp only [Prod.mk.injEq] at h
    obtain ⟨rfl, rfl⟩ := h
    rfl

/-- The last write would have had to wait. -/
def WriteBlocked (e : Endpoint) : Prop :=
  ∃ fault, fault.kind = .wouldBlock ∧ e.lastWrite = some (.fault fault)

/-- Some of what was there has been read: a fault that is still to come was to come before, with
all that is behind it. -/
def Later (e e' : Endpoint) : Prop :=
  ∀ fault rest, .fault fault :: rest <:+ e'.arrivals → .fault fault :: rest <:+ e.arrivals

/-- Everything has been read, up to an answer that more would have to be waited for: what is there
now comes behind that answer. -/
def ReadOut (e e' : Endpoint) : Prop :=
  ∃ fault, fault.kind = .wouldBlock ∧ e'.lastRead = some (.fault fault) ∧
    (e'.arrivals = [] ∧ e'.atEnd = false ∨ .fault fault :: e'.arrivals <:+ e.arrivals)

theorem Later.refl (e : Endpoint) : e.Later e := fun _ _ h => h

theorem Later.trans (h : e.Later e') (h' : e'.Later e'') : e.Later e'' :=
  fun fault rest hlater => h fault rest (h' fault rest hlater)

theorem later_of_inbound (h : e'.inbound = e.inbound) : e.Later e' := by
  intro fault rest hlater
  rwa [show e'.arrivals = e.arrivals from congrArg Prod.fst h] at hlater

/-- A read takes from the front. -/
theorem later_of_read {limit : Nat} {answer : ReadAnswer} (h : e.read limit = (answer, e')) :
    e.Later e' := by
  intro fault rest hlater
  unfold read at h
  split at h
  · next bytes tail harrivals =>
    simp only [Prod.mk.injEq] at h
    obtain ⟨-, rfl⟩ := h
    rw [harrivals]
    dsimp only at hlater
    split at hlater
    · exact hlater.trans (List.suffix_cons _ _)
    · -- What is left of the piece is no fault, so the fault is behind it.
      rcases List.suffix_cons_iff.1 hlater with heq | htail
      · cases heq
      · exact htail.trans (List.suffix_cons _ _)
  · next failure tail harrivals =>
    simp only [Prod.mk.injEq] at h
    obtain ⟨-, rfl⟩ := h
    rw [harrivals]
    exact List.IsSuffix.trans hlater (List.suffix_cons _ _)
  · next harrivals =>
    simp only [Prod.mk.injEq] at h
    obtain ⟨-, rfl⟩ := h
    exact hlater

/-- A read that would block has read all that there was. -/
theorem readOut_of_read {limit : Nat} {fault : Fault} (h : e.read limit = (.fault fault, e'))
    (hblocked : fault.kind = .wouldBlock) : e.ReadOut e' := by
  refine ⟨fault, hblocked, ?_⟩
  unfold read at h
  split at h
  · simp at h
  · next failure tail harrivals =>
    simp only [Prod.mk.injEq, ReadAnswer.fault.injEq] at h
    obtain ⟨rfl, rfl⟩ := h
    exact ⟨rfl, .inr (harrivals ▸ List.suffix_refl _)⟩
  · next harrivals =>
    simp only [Prod.mk.injEq] at h
    obtain ⟨hanswer, rfl⟩ := h
    refine ⟨congrArg some hanswer, .inl ⟨harrivals, ?_⟩⟩
    cases hend : e.atEnd with
    | false => rfl
    | true => simp [hend] at hanswer

/-- What is there after everything has been read was there before. -/
theorem ReadOut.later (h : e.ReadOut e') : e.Later e' := by
  obtain ⟨fault, -, -, ⟨hempty, -⟩ | hrest⟩ := h
  · intro fault' rest hlater
    rw [hempty, List.suffix_nil] at hlater
    cases hlater
  · intro fault' rest hlater
    exact (hlater.trans (List.suffix_cons _ _)).trans hrest

theorem ReadOut.of_later (h : e.Later e') (h' : e'.ReadOut e'') : e.ReadOut e'' := by
  obtain ⟨fault, hblocked, hlast, hrest⟩ := h'
  exact ⟨fault, hblocked, hlast, hrest.imp_right (h fault _)⟩

theorem ReadOut.of_inbound (h : e.ReadOut e') (hsame : e''.inbound = e'.inbound) :
    e.ReadOut e'' := by
  simp only [inbound, Prod.mk.injEq] at hsame
  obtain ⟨harrivals, hend, hlast⟩ := hsame
  unfold ReadOut
  rw [harrivals, hend, hlast]
  exact h

end Endpoint

end ChatRelay
