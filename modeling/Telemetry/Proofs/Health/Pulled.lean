import Telemetry.Proofs.Health.Accounting

/-!
# Counts pulled from storage

Storage is asked once per channel, in the order of the channels, up to the first question
that it cannot answer.  Where it answers all of them, a channel that is declared twice gets
the same answer twice, so that the report is the one from any counts that agree with storage
on the declared ids.
-/
set_option autoImplicit false
namespace Telemetry.Completeness
variable {ε : Type} {storage : Query → Except ε Int} {sourceId : String} {window : Span}
  {counts given : Counts} {channels before rest : List Channel} {c : Channel} {id : String} {e : ε}

def question (sourceId : String) (window : Span) (c : Channel) : Query := ⟨sourceId, c.id, window⟩

/-- The counts hold what storage answers for the channels. -/
def Agrees (storage : Query → Except ε Int) (sourceId : String) (window : Span)
    (channels : List Channel) (given : Counts) : Prop :=
  ∀ c ∈ channels, storage (question sourceId window c) = .ok (given.get c.id)

/-- A first channel that storage cannot answer for. -/
structure FirstFailure (storage : Query → Except ε Int) (sourceId : String) (window : Span)
    (channels before : List Channel) (c : Channel) (e : ε) : Prop where
  split : ∃ rest, channels = before ++ c :: rest
  answered : ∀ d ∈ before, ∃ n, storage (question sourceId window d) = .ok n
  failed : storage (question sourceId window c) = .error e

/-! ## Counts put one after the other -/

theorem get_put (n : Int) :
    (counts.put c.id n).get id = if id = c.id then n else counts.get id := by
  by_cases same : id = c.id
  · simp [Counts.put, Counts.get, same]
  · simp [Counts.put, Counts.get, List.lookup_cons, beq_false_of_ne same, same]

/-- Counts after those of the channels were put, each as it is in the given ones. -/
def putAll (given counts : Counts) (channels : List Channel) : Counts :=
  channels.foldl (fun counts c => counts.put c.id (given.get c.id)) counts

/-- A repeated id is put again with the count that it had. -/
theorem get_putAll : (putAll given counts channels).get id =
    if id ∈ channels.map Channel.id then given.get id else counts.get id := by
  induction channels generalizing counts with
  | nil => rfl
  | cons c rest ih =>
      rw [putAll, List.foldl_cons, ← putAll, ih, get_put]
      by_cases later : id ∈ rest.map Channel.id
      · simp [later]
      · by_cases here : id = c.id
        · simp [here]
        · simp [later, here]

theorem Agrees.put {n : Int} (agrees : Agrees storage sourceId window rest given)
    (answered : storage (question sourceId window c) = .ok n) :
    Agrees storage sourceId window (c :: rest) (given.put c.id n) := by
  intro d member
  rw [get_put]
  by_cases same : d.id = c.id
  · rw [if_pos same, question, same]
    exact answered
  · rw [if_neg same]
    rcases List.mem_cons.mp member with rfl | later
    · exact absurd rfl same
    · exact agrees d later

theorem agrees_or_fails (storage : Query → Except ε Int) (sourceId : String) (window : Span)
    (channels : List Channel) :
    (∃ given, Agrees storage sourceId window channels given) ∨
      ∃ before c e, FirstFailure storage sourceId window channels before c e := by
  induction channels with
  | nil => exact .inl ⟨Counts.empty, by simp [Agrees]⟩
  | cons c rest ih =>
      cases answer : storage (question sourceId window c) with
      | error e => exact .inr ⟨[], c, e, ⟨rest, rfl⟩, by simp, answer⟩
      | ok n =>
          rcases ih with ⟨given, agrees⟩ | ⟨before, d, e, ⟨after, split⟩, answered, failed⟩
          · exact .inl ⟨_, agrees.put answer⟩
          · refine .inr ⟨c :: before, d, e, ⟨after, by rw [split]; rfl⟩, ?_, failed⟩
            exact List.forall_mem_cons.mpr ⟨⟨n, answer⟩, answered⟩

theorem exists_agrees (answered : ∀ d ∈ before, ∃ n, storage (question sourceId window d) = .ok n) :
    ∃ given, Agrees storage sourceId window before given := by
  rcases agrees_or_fails storage sourceId window before with found | ⟨_, c, e, ⟨_, split⟩, -, failed⟩
  · exact found
  · obtain ⟨n, answer⟩ := answered c (by simp [split])
    rw [failed] at answer
    cases answer

/-! ## How far storage is asked -/

theorem Agrees.pull_append (agrees : Agrees storage sourceId window before given) :
    pull storage sourceId window (before ++ rest) counts =
      let pulled := pull storage sourceId window rest (putAll given counts before)
      ⟨before.map (question sourceId window) ++ pulled.queries, pulled.outcome⟩ := by
  induction before generalizing counts with
  | nil => rfl
  | cons d later ih =>
      obtain ⟨here, tail⟩ := List.forall_mem_cons.mp agrees
      rw [question] at here
      rw [List.cons_append, pull, here]
      dsimp only
      rw [ih tail]
      rfl

theorem Agrees.pull_eq (agrees : Agrees storage sourceId window channels given) :
    pull storage sourceId window channels counts =
      ⟨channels.map (question sourceId window), .ok (putAll given counts channels)⟩ := by
  have pulled : pull storage sourceId window (channels ++ []) counts = _ := agrees.pull_append
  simpa [pull] using pulled

theorem FirstFailure.pull_eq (failure : FirstFailure storage sourceId window channels before c e) :
    pull storage sourceId window channels counts =
      ⟨(before ++ [c]).map (question sourceId window), .error e⟩ := by
  obtain ⟨⟨rest, rfl⟩, answered, failed⟩ := failure
  obtain ⟨given, agrees⟩ := exists_agrees answered
  rw [question] at failed
  simp [agrees.pull_append, pull, failed, question]

/-- The questions put to storage, and the report from counts that agree with it or the first
failure; there are such counts unless a question fails. -/
theorem evaluateFrom_eq_evaluate (storage : Query → Except ε Int) (sourceId : String) (spec : SourceSpec)
    (window : Span) :
    (∀ given, Agrees storage sourceId window spec.channels given →
      evaluateFrom storage sourceId spec window =
        (spec.channels.map (question sourceId window), .ok (evaluate sourceId spec window given))) ∧
    (∀ before c e, FirstFailure storage sourceId window spec.channels before c e →
      evaluateFrom storage sourceId spec window =
        ((before ++ [c]).map (question sourceId window), .error e)) ∧
    ((∃ given, Agrees storage sourceId window spec.channels given) ∨
      ∃ before c e, FirstFailure storage sourceId window spec.channels before c e) := by
  refine ⟨?answers, ?failure, agrees_or_fails storage sourceId window spec.channels⟩
  case answers =>
    intro given agrees
    have same : ∀ c ∈ spec.channels,
        (putAll given Counts.empty spec.channels).get c.id = given.get c.id := by
      intro c member
      rw [get_putAll, if_pos (List.mem_map_of_mem member)]
    rw [evaluateFrom, agrees.pull_eq]
    simp only [Except.map, evaluate_congr same]
  case failure =>
    intro before c e failure
    rw [evaluateFrom, failure.pull_eq]
    rfl

/-- A channel that is declared twice is asked twice, and nothing is asked after one without an
answer. -/
theorem repeated_channel_asked_again :
    let storage : Query → Except String Int := fun q =>
      if q.channelId = "rain" then .error "offline" else .ok 30
    let wind : Channel := ⟨"wind", Binary64.ofNat 1, "m/s"⟩
    let rain : Channel := ⟨"rain", Binary64.ofNat 1, "mm"⟩
    let window := Span.endingAt Instant.latest (Elapsed.ofSeconds 60)
    let query : Query := ⟨"s-1", "wind", window⟩
    let given := Counts.empty.put "wind" 30
    evaluateFrom storage "s-1" ⟨"station", [wind, wind]⟩ window =
        ([query, query], .ok (evaluate "s-1" ⟨"station", [wind, wind]⟩ window given)) ∧
      evaluateFrom storage "s-1" ⟨"station", [wind, rain, wind]⟩ window =
        ([query, ⟨"s-1", "rain", window⟩], .error "offline") := by
  intro storage wind rain window query given
  obtain ⟨answers, -⟩ := evaluateFrom_eq_evaluate storage "s-1" ⟨"station", [wind, wind]⟩ window
  obtain ⟨-, failure, -⟩ := evaluateFrom_eq_evaluate storage "s-1" ⟨"station", [wind, rain, wind]⟩ window
  refine ⟨answers given ?_, failure [wind] rain "offline" ⟨⟨[wind], rfl⟩, ?_, rfl⟩⟩
  · intro c member
    obtain rfl : c = wind := by simpa using member
    rfl
  · intro d member
    obtain rfl : d = wind := by simpa using member
    exact ⟨30, rfl⟩

end Telemetry.Completeness
