import AlarmRelay.FairLock

/-!
# What the lock keeps

A writer never shares the lock with a reader, a reader stays one until it leaves,
and a ticket is known to the lock exactly between its request and its leave.
Holders and waiters form one line in the order of their requests, in which nobody
overtakes a writer.
-/

set_option autoImplicit false

namespace AlarmRelay.FairLock

/-- A holder of the exclusive side excludes the shared side. -/
def Exclusive (lock : FairLock) : Prop :=
  ∀ ticket, lock.writer = some ticket → lock.readers = []

/-- Everybody who holds the lock or waits for it. -/
def tickets (lock : FairLock) : List Ticket :=
  lock.readers ++ lock.writer.toList ++ lock.waiting.map LockRequest.ticket

theorem exclusive_grantFrom (readers : List Ticket)
    (waiting : List LockRequest) : (grantFrom readers waiting).Exclusive := by
  fun_induction grantFrom readers waiting with
  | case1 readers => intro ticket held; cases held
  | case2 readers ticket rest ih => exact ih
  | case3 readers ticket rest empty => intro _ _; rfl
  | case4 readers ticket rest busy => intro ticket held; cases held

theorem exclusive_grantQueued (lock : FairLock) (exclusive : lock.Exclusive) :
    lock.grantQueued.Exclusive := by
  unfold grantQueued
  split
  · exact exclusive
  · exact exclusive_grantFrom lock.readers lock.waiting

theorem exclusive_request (lock : FairLock) (ticket : Ticket) (mode : LockMode)
    (exclusive : lock.Exclusive) : (lock.request ticket mode).Exclusive :=
  exclusive_grantQueued _ exclusive

theorem exclusive_leave (lock : FairLock) (ticket : Ticket)
    (exclusive : lock.Exclusive) : (lock.leave ticket).Exclusive := by
  apply exclusive_grantQueued
  intro writer held
  obtain ⟨before, _⟩ := Option.filter_eq_some_iff.mp held
  simp [exclusive writer before]

theorem readers_grantFrom (readers : List Ticket) (waiting : List LockRequest)
    (ticket : Ticket) (held : ticket ∈ readers) :
    ticket ∈ (grantFrom readers waiting).readers := by
  fun_induction grantFrom readers waiting with
  | case1 readers => exact held
  | case2 readers next rest ih => exact ih (List.mem_append_left _ held)
  | case3 readers next rest empty =>
      rw [List.isEmpty_iff.mp empty] at held
      exact held
  | case4 readers next rest busy => exact held

theorem readers_grantQueued (lock : FairLock) (ticket : Ticket)
    (held : ticket ∈ lock.readers) : ticket ∈ lock.grantQueued.readers := by
  unfold grantQueued
  split
  · exact held
  · exact readers_grantFrom _ _ ticket held

theorem readers_request (lock : FairLock) (ticket other : Ticket)
    (mode : LockMode) (held : other ∈ lock.readers) :
    other ∈ (lock.request ticket mode).readers :=
  readers_grantQueued _ other held

theorem readers_leave (lock : FairLock) (ticket other : Ticket)
    (held : other ∈ lock.readers) (different : other ≠ ticket) :
    other ∈ (lock.leave ticket).readers := by
  apply readers_grantQueued
  simp [held, different]

theorem tickets_grantFrom (readers : List Ticket) (waiting : List LockRequest)
    (ticket : Ticket) :
    ticket ∈ (grantFrom readers waiting).tickets ↔
      ticket ∈ readers ∨ ticket ∈ waiting.map LockRequest.ticket := by
  fun_induction grantFrom readers waiting with
  | case1 readers => simp [tickets]
  | case2 readers next rest ih => simp [ih, or_assoc]
  | case3 readers next rest empty =>
      rw [List.isEmpty_iff.mp empty]
      simp [tickets]
  | case4 readers next rest busy => simp [tickets]

theorem tickets_grantQueued (lock : FairLock) (ticket : Ticket) :
    ticket ∈ lock.grantQueued.tickets ↔ ticket ∈ lock.tickets := by
  unfold grantQueued
  split
  · rfl
  · rename_i idle
    rw [tickets_grantFrom]
    simp [tickets, idle]

theorem tickets_request (lock : FairLock) (ticket other : Ticket)
    (mode : LockMode) :
    other ∈ (lock.request ticket mode).tickets ↔
      other ∈ lock.tickets ∨ other = ticket := by
  rw [request, tickets_grantQueued]
  simp [tickets, or_assoc]

theorem tickets_leave (lock : FairLock) (ticket other : Ticket) :
    other ∈ (lock.leave ticket).tickets ↔
      other ∈ lock.tickets ∧ other ≠ ticket := by
  rw [leave, tickets_grantQueued]
  simp only [tickets, List.mem_append, List.mem_filter, List.mem_map,
    Option.mem_toList, Option.filter_eq_some_iff, bne_iff_ne]
  constructor
  · rintro ((⟨held, apart⟩ | ⟨held, apart⟩) | ⟨entry, ⟨queued, apart⟩, rfl⟩)
    · exact ⟨Or.inl (Or.inl held), apart⟩
    · exact ⟨Or.inl (Or.inr held), apart⟩
    · exact ⟨Or.inr ⟨entry, queued, rfl⟩, apart⟩
  · rintro ⟨(held | held) | ⟨entry, queued, rfl⟩, apart⟩
    · exact Or.inl (Or.inl ⟨held, apart⟩)
    · exact Or.inl (Or.inr ⟨held, apart⟩)
    · exact Or.inr ⟨entry, ⟨queued, apart⟩, rfl⟩

/-- Somebody holds the lock while anybody waits for it. -/
def Occupied (lock : FairLock) : Prop :=
  lock.waiting ≠ [] →
    ∃ ticket, ticket ∈ lock.readers ∨ lock.writer = some ticket

theorem occupied_grantFrom (readers : List Ticket)
    (waiting : List LockRequest) : (grantFrom readers waiting).Occupied := by
  fun_induction grantFrom readers waiting with
  | case1 readers => intro queued; exact absurd rfl queued
  | case2 readers ticket rest ih => exact ih
  | case3 readers ticket rest empty => intro _; exact ⟨ticket, Or.inr rfl⟩
  | case4 readers ticket rest busy =>
      intro _
      cases readers with
      | nil => exact absurd rfl busy
      | cons reader others => exact ⟨reader, Or.inl List.mem_cons_self⟩

theorem occupied_grantQueued (lock : FairLock) : lock.grantQueued.Occupied := by
  unfold grantQueued
  split
  · rename_i writer held
    intro _
    exact ⟨writer, Or.inr held⟩
  · exact occupied_grantFrom lock.readers lock.waiting

theorem occupied_request (lock : FairLock) (ticket : Ticket)
    (mode : LockMode) : (lock.request ticket mode).Occupied :=
  occupied_grantQueued _

theorem occupied_leave (lock : FairLock) (ticket : Ticket) :
    (lock.leave ticket).Occupied :=
  occupied_grantQueued _

theorem tickets_of_readers (lock : FairLock) (ticket : Ticket)
    (held : ticket ∈ lock.readers) : ticket ∈ lock.tickets := by
  simp [tickets, held]

/-! ## The line at the lock -/

/-- Holders and waiters in the order of their requests. -/
def line (lock : FairLock) : List LockRequest :=
  lock.readers.map (fun ticket => ⟨ticket, .shared⟩)
    ++ lock.writer.toList.map (fun ticket => ⟨ticket, .exclusive⟩)
    ++ lock.waiting

theorem line_grantFrom (readers : List Ticket) (waiting : List LockRequest) :
    (grantFrom readers waiting).line =
      readers.map (fun ticket => ⟨ticket, .shared⟩) ++ waiting := by
  fun_induction grantFrom readers waiting with
  | case1 readers => simp [line]
  | case2 readers ticket rest ih => simp [ih]
  | case3 readers ticket rest empty =>
      rw [List.isEmpty_iff.mp empty]
      simp [line]
  | case4 readers ticket rest busy => simp [line]

theorem line_grantQueued (lock : FairLock) : lock.grantQueued.line = lock.line := by
  unfold grantQueued
  split
  · rfl
  · rename_i idle
    rw [line_grantFrom]
    simp [line, idle]

/-- A request goes to the end of the line. -/
theorem line_request (lock : FairLock) (ticket : Ticket) (mode : LockMode) :
    (lock.request ticket mode).line = lock.line ++ [⟨ticket, mode⟩] := by
  rw [request, line_grantQueued]
  simp [line]

/-- Whoever leaves goes out of the line, and nobody else moves. -/
theorem line_leave (lock : FairLock) (ticket : Ticket) :
    (lock.leave ticket).line =
      lock.line.filter (fun entry => entry.ticket != ticket) := by
  rw [leave, line_grantQueued]
  simp only [line, List.filter_append, List.filter_map, Function.comp_def]
  congr 3
  cases lock.writer with
  | none => rfl
  | some writer => by_cases same : writer = ticket <;> simp [Option.filter, same]

theorem mem_line_readers (lock : FairLock) (ticket : Ticket)
    (held : ticket ∈ lock.readers) : ⟨ticket, .shared⟩ ∈ lock.line := by
  simp [line, held]

theorem mem_line_writer (lock : FairLock) (ticket : Ticket)
    (held : lock.writer = some ticket) : ⟨ticket, .exclusive⟩ ∈ lock.line := by
  simp [line, held]

/-- Nobody stands before a writer that holds the lock, and no writer stands
before a reader that does. -/
theorem line_ahead (lock : FairLock) (exclusive : lock.Exclusive)
    (single : (lock.line.map LockRequest.ticket).Nodup) :
    lock.line.Pairwise fun first second =>
      lock.writer ≠ some second.ticket ∧
        (first.mode = .exclusive → second.ticket ∉ lock.readers) := by
  obtain ⟨readers, writer, waiting⟩ := lock
  simp only [line, List.map_append, List.map_map, Function.comp_def,
    List.map_id', List.nodup_append, List.mem_append, List.mem_map] at single
  -- Whoever waits holds nothing.
  have apart : ∀ entry ∈ waiting, writer ≠ some entry.ticket ∧
      entry.ticket ∉ readers := by
    intro entry queued
    refine ⟨?_, ?_⟩
    · intro holds
      exact single.2.2 entry.ticket (Or.inr (by simp [holds])) entry.ticket
        ⟨entry, queued, rfl⟩ rfl
    · intro reads
      exact single.2.2 entry.ticket (Or.inl reads) entry.ticket
        ⟨entry, queued, rfl⟩ rfl
  have queue : waiting.Pairwise fun first second =>
      writer ≠ some second.ticket ∧
        (first.mode = .exclusive → second.ticket ∉ readers) :=
    List.pairwise_of_forall_mem_list fun first _ second queued =>
      ⟨(apart second queued).1, fun _ => (apart second queued).2⟩
  cases writer with
  | none =>
      simp only [line, Option.toList_none, List.map_nil, List.append_nil]
      rw [List.pairwise_append]
      refine ⟨?_, queue, ?_⟩
      · exact List.pairwise_map.mpr
          (List.pairwise_of_forall_mem_list fun _ _ _ _ => by simp)
      · intro first _ second queued
        exact ⟨(apart second queued).1, fun _ => (apart second queued).2⟩
  | some holder =>
      have nobody : readers = [] := exclusive holder rfl
      subst nobody
      simp only [line, Option.toList_some, List.map_cons, List.map_nil,
        List.nil_append, List.singleton_append]
      refine List.pairwise_cons.mpr ⟨?_, queue⟩
      intro second queued
      exact ⟨(apart second queued).1, fun _ => (apart second queued).2⟩

theorem grantFrom_shared (readers : List Ticket) (waiting : List LockRequest)
    (shared : ∀ entry ∈ waiting, entry.mode = .shared) :
    grantFrom readers waiting =
      ⟨readers ++ waiting.map LockRequest.ticket, none, []⟩ := by
  fun_induction grantFrom readers waiting with
  | case1 readers => simp
  | case2 readers ticket rest ih =>
      rw [ih (fun entry member => shared entry (List.mem_cons_of_mem _ member))]
      simp
  | case3 readers ticket rest empty => cases shared _ List.mem_cons_self
  | case4 readers ticket rest busy => cases shared _ List.mem_cons_self

/-- Where no writer holds the lock or waits for it, the shared side is granted at
once. -/
theorem request_shared (lock : FairLock) (ticket : Ticket)
    (shared : ∀ entry ∈ lock.line, entry.mode = .shared) :
    ticket ∈ (lock.request ticket .shared).readers := by
  have idle : lock.writer = none := by
    cases held : lock.writer with
    | none => rfl
    | some writer => cases shared _ (lock.mem_line_writer writer held)
  rw [request, grantQueued]
  simp only [idle]
  rw [grantFrom_shared]
  · simp
  · intro entry queued
    rcases List.mem_append.mp queued with before | here
    · exact shared entry (by simp [line, before])
    · rw [List.mem_singleton.mp here]

end AlarmRelay.FairLock
