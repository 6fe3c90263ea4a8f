import Telemetry.Proofs.Json.Record
import Telemetry.Proofs.Json.Tokens
import Telemetry.Settings.Basic

/-!
# Settings saved and loaded

Durations are read and saved in whole milliseconds, so whatever settings were loaded are
saved without loss, and the saved text is a document that loads as the same settings.
-/
set_option autoImplicit false
namespace Telemetry
open Json

/-- A duration of whole milliseconds, as documents give it. -/
def Duration.Whole (d : Duration) : Prop := ∃ ms, d = .ofMillis ms

namespace CacheSettings
variable {s : CacheSettings} {d : Duration} {j : Json}

theorem whole_of_millis? (read : millis? j = some d) : d.Whole := by
  obtain ⟨i, -, rfl⟩ := Option.map_eq_some_iff.mp read
  exact ⟨_, rfl⟩

theorem millis?_savedMillis (whole : d.Whole) : millis? (savedMillis d) = some d := by
  obtain ⟨ms, rfl⟩ := whole
  have bound := ms.toNat_lt
  rw [millis?, savedMillis, Duration.savedMillis_ofMillis,
    integer?_int (by omega) (by omega) (by decide) (by decide), Option.map_some, Int.toNat_natCast,
    UInt64.ofNat_toNat]

/-- Durations of whole milliseconds. -/
structure Whole (s : CacheSettings) : Prop where
  invalidateAfter : s.invalidateAfter.Whole
  retryAfter : s.retryAfter.Whole
  loadTimeout : ∀ timeout ∈ s.loadTimeout, timeout.Whole

theorem whole_standard : standard.Whole where
  invalidateAfter := ⟨_, rfl⟩
  retryAfter := ⟨_, rfl⟩
  loadTimeout timeout member := by
    obtain rfl : Duration.ofMillis 30000 = timeout := Option.some.inj member
    exact ⟨_, rfl⟩

theorem whole_of_optional? {timeout : Option Duration} (read : optional? millis? j = some timeout) :
    ∀ d ∈ timeout, d.Whole := by
  cases timeout with
  | none => simp
  | some t =>
      have given : millis? j = some t := by
        cases j <;> simp_all [optional?]
      intro d member
      obtain rfl : t = d := Option.some.inj member
      exact whole_of_millis? given

theorem whole_of_ofJson? (read : ofJson? j = some s) : s.Whole := by
  simp only [ofJson?, Option.bind_eq_bind, Option.bind_eq_some_iff] at read
  obtain ⟨slots, -, read⟩ := read
  split at read
  · simp only [Option.bind_eq_some_iff] at read
    obtain ⟨invalidate, first, retry, second, timeout, third, same⟩ := read
    obtain rfl := Option.some.inj same
    have standard := whole_standard
    exact ⟨of_withDefault? first standard.invalidateAfter fun _ _ => whole_of_millis?,
      of_withDefault? second standard.retryAfter fun _ _ => whole_of_millis?,
      of_withDefault? third standard.loadTimeout fun _ _ => whole_of_optional?⟩
  · cases read

theorem ofJson?_toJson (whole : s.Whole) : ofJson? s.toJson = some s := by
  have slots : slots? fields s.toJson = some [some (savedMillis s.invalidateAfter),
      some (savedMillis s.retryAfter), some ((s.loadTimeout.map savedMillis).getD .null)] :=
    slots?_record (by simp) rfl
  have timeout :
      optional? millis? ((s.loadTimeout.map savedMillis).getD .null) = some s.loadTimeout := by
    cases given : s.loadTimeout with
    | none => rfl
    | some t =>
        have read := millis?_savedMillis (whole.loadTimeout t given)
        exact congrArg (Option.map some) read
  simp [ofJson?, slots, withDefault?, millis?_savedMillis whole.invalidateAfter,
    millis?_savedMillis whole.retryAfter, timeout]

theorem written_savedMillis (d : Duration) : (savedMillis d).Written :=
  .number (Numeral.written_ofInt _)

theorem written_toJson (s : CacheSettings) : s.toJson.Written := by
  have timeout : ((s.loadTimeout.map savedMillis).getD .null).Written := by
    cases s.loadTimeout with
    | none => exact .null
    | some t => exact written_savedMillis t
  apply written_record
  simp [written_savedMillis, timeout]

end CacheSettings

theorem Bucket.ofJson?_toJson (b : Bucket) : ofJson? b.toJson = some b := by
  cases b <;> decide

namespace WindowSettings

theorem ofJson?_toJson (s : WindowSettings) : ofJson? s.toJson = some s := by
  have slots : slots? fields s.toJson =
      some [some (int s.windowCount.toNat), some (int s.maxBuckets.toNat),
        some (int s.spanDays.toInt), some (.array (s.bucketSizes.map Bucket.toJson))] :=
    slots?_record (by simp) rfl
  have count := s.windowCount.toNat_lt
  have most := s.maxBuckets.toNat_lt
  have low := s.spanDays.le_toInt
  have high := s.spanDays.toInt_lt
  have windowCount : integer? 0 4294967295 (int s.windowCount.toNat) =
      some (s.windowCount.toNat : Int) :=
    integer?_int (by omega) (by omega) (by decide) (by decide)
  have maxBuckets : integer? 0 18446744073709551615 (int s.maxBuckets.toNat) =
      some (s.maxBuckets.toNat : Int) :=
    integer?_int (by omega) (by omega) (by decide) (by decide)
  have spanDays : integer? (-9223372036854775808) 9223372036854775807 (int s.spanDays.toInt) =
      some s.spanDays.toInt :=
    integer?_int (by omega) (by omega) (by decide) (by decide)
  simp [ofJson?, slots, withDefault?, windowCount, maxBuckets, spanDays,
    list?_map Bucket.ofJson?_toJson]

theorem written_toJson (s : WindowSettings) : s.toJson.Written := by
  have sizes : ∀ j ∈ s.bucketSizes.map Bucket.toJson, j.Written := by
    intro j member
    obtain ⟨b, -, rfl⟩ := List.mem_map.mp member
    exact .text b.token
  apply written_record
  simp [written_int, Written.array sizes]

end WindowSettings

namespace MonitorSettings
variable {s : MonitorSettings} {j : Json}

structure Whole (s : MonitorSettings) : Prop where
  windowLength : s.windowLength.Whole
  grid : s.grid.Whole

theorem whole_standard : standard.Whole := ⟨⟨60000, rfl⟩, ⟨10000, rfl⟩⟩

theorem whole_of_ofJson? (read : ofJson? j = some s) : s.Whole := by
  simp only [ofJson?, Option.bind_eq_bind, Option.bind_eq_some_iff] at read
  obtain ⟨slots, -, read⟩ := read
  split at read
  · simp only [Option.bind_eq_some_iff] at read
    obtain ⟨length, first, grid, second, same⟩ := read
    obtain rfl := Option.some.inj same
    exact ⟨of_withDefault? first whole_standard.windowLength fun _ _ => CacheSettings.whole_of_millis?,
      of_withDefault? second whole_standard.grid fun _ _ => CacheSettings.whole_of_millis?⟩
  · cases read

theorem ofJson?_toJson (whole : s.Whole) : ofJson? s.toJson = some s := by
  have slots : slots? fields s.toJson =
      some [some (CacheSettings.savedMillis s.windowLength), some (CacheSettings.savedMillis s.grid)] :=
    slots?_record (by simp) rfl
  simp [ofJson?, slots, withDefault?, CacheSettings.millis?_savedMillis whole.windowLength,
    CacheSettings.millis?_savedMillis whole.grid]

theorem written_toJson (s : MonitorSettings) : s.toJson.Written := by
  apply written_record
  simp [CacheSettings.written_savedMillis]

end MonitorSettings

namespace Settings
variable {s : Settings} {j : Json} {text : String}

structure Whole (s : Settings) : Prop where
  cache : s.cache.Whole
  monitor : s.monitor.Whole

theorem whole_of_ofJson? (read : ofJson? j = some s) : s.Whole := by
  simp only [ofJson?, Option.bind_eq_bind, Option.bind_eq_some_iff] at read
  obtain ⟨slots, -, read⟩ := read
  split at read
  · simp only [Option.bind_eq_some_iff] at read
    obtain ⟨cache, first, window, -, monitor, third, same⟩ := read
    obtain rfl := Option.some.inj same
    exact ⟨of_withDefault? first CacheSettings.whole_standard fun _ _ => CacheSettings.whole_of_ofJson?,
      of_withDefault? third MonitorSettings.whole_standard fun _ _ => MonitorSettings.whole_of_ofJson?⟩
  · cases read

theorem ofJson?_toJson (whole : s.Whole) : ofJson? s.toJson = some s := by
  have slots : slots? fields s.toJson =
      some [some s.cache.toJson, some s.window.toJson, some s.monitor.toJson] :=
    slots?_record (by simp) rfl
  simp [ofJson?, slots, withDefault?, CacheSettings.ofJson?_toJson whole.cache,
    WindowSettings.ofJson?_toJson, MonitorSettings.ofJson?_toJson whole.monitor]

theorem written_toJson (s : Settings) : s.toJson.Written := by
  apply written_record
  simp [CacheSettings.written_toJson, WindowSettings.written_toJson, MonitorSettings.written_toJson]

theorem load_eq_ok : load text = .ok s ↔ parse? text = some s ∧ s.validate = .ok () := by
  rw [load]
  cases parse? text with
  | none => simp
  | some t =>
      simp only [Option.some.injEq]
      constructor
      · intro accepted
        cases valid : t.validate with
        | error e =>
            rw [valid] at accepted
            cases accepted
        | ok _ =>
            rw [valid] at accepted
            obtain rfl : t = s := Except.ok.inj accepted
            exact ⟨rfl, valid⟩
      · rintro ⟨rfl, valid⟩
        rw [valid]
        rfl

/-- Whatever settings a text gives, saving them gives a text of their document, which loads as the
same settings again. -/
theorem load_save (accepted : load text = .ok s) :
    Json.parse? s.save = some s.toJson ∧ load s.save = .ok s := by
  obtain ⟨read, valid⟩ := load_eq_ok.mp accepted
  have saved : Json.parse? s.save = some s.toJson := parse?_render (written_toJson s)
  obtain ⟨j, -, given⟩ := Option.bind_eq_some_iff.mp read
  refine ⟨saved, load_eq_ok.mpr ⟨?_, valid⟩⟩
  rw [parse?, saved, Option.bind_some, ofJson?_toJson (whole_of_ofJson? given)]

/-- A record as an array, the largest numbers, a repeated size, a timeout of null and an unknown
member all survive. -/
theorem sparse_document_survives :
    let text := "\x7b\"cache\": [18446744073709551615, 0, null], \"note\": \"\\ud83d\\ude00\", "
      ++ "\"window\": \x7b\"bucket_sizes\": [\"1w\", \"10s\", \"1w\"], \"default_window_count\": 4294967295, "
      ++ "\"max_buckets\": 18446744073709551615\x7d\x7d"
    let s : Settings := ⟨⟨.ofMillis 18446744073709551615, .ofMillis 0, none⟩,
      ⟨4294967295, 18446744073709551615, 365, [.oneWeek, .tenSeconds, .oneWeek]⟩, .standard⟩
    load text = .ok s ∧ load s.save = .ok s := by
  intro text s
  have accepted : load text = .ok s := by decide +kernel
  exact ⟨accepted, (load_save accepted).2⟩

end Settings
end Telemetry
