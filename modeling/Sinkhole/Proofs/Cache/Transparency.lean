import Sinkhole.Proofs.Cache.Decisions

/-! # A cache that nobody notices

The classifier behind a cache may change, and the cache may forget decisions and take more or fewer
of them at any time. All that is asked for is that between a change and the next lookup everything is
forgotten: then the cache agrees with the classifier at every lookup. The numbers that it keeps move
with the lookups alone, and the log makes no difference to them. Main statement: over any run of that
kind, what lookups answer, count, ask and report.
-/
namespace Sinkhole

inductive CacheEvent where
  | use (use : CacheUse)
  /-- From now on so many decisions are kept: a cache may be over its capacity for a while. -/
  | hold (count : Nat)
  | change (inner : String → Classification)

structure CacheRun where
  cache : CachedClassifier
  inner : String → Classification

structure CacheRead extends CacheRun where
  host : String

/-- What the lookup gives, with the hosts that the classifier behind the cache was asked about. -/
def CacheRead.found (read : CacheRead) : CacheLookup (List String) :=
  read.cache.classify read.inner read.host

def CacheRead.outcome (read : CacheRead) :
    String × Classification × List String × Option CacheStats :=
  (read.host, read.found.classification, read.found.classifier, read.found.report)

namespace CacheRun

def step (run : CacheRun) : CacheEvent → CacheRun
  | .use use => { run with cache := run.cache.after run.inner use }
  | .hold count => { run with cache := { run.cache with capacity := count } }
  | .change inner => { run with inner := inner }

def read? (run : CacheRun) : CacheEvent → Option CacheRead
  | .use (.lookup host) => some ⟨run, host⟩
  | _ => none

def after (run : CacheRun) (events : List CacheEvent) : CacheRun := events.foldl step run

def reads (run : CacheRun) : List CacheEvent → List CacheRead
  | [] => []
  | event :: events => (run.read? event).toList ++ (run.step event).reads events

/-- The hosts that the classifiers behind the cache were asked about. -/
def asked (run : CacheRun) (events : List CacheEvent) : List String :=
  (run.reads events).flatMap (·.found.classifier)

end CacheRun

def ForgetsFirst (events : List CacheEvent) : Prop :=
  ∀ before host rest, events = before ++ .use (.lookup host) :: rest → .use .invalidate ∈ before

/-- After each change everything is forgotten before the next lookup. -/
def ForgetsChanges (events : List CacheEvent) : Prop :=
  ∀ before inner rest, events = before ++ .change inner :: rest → ForgetsFirst rest

theorem forgetsFirst_invalidate (events : List CacheEvent) :
    ForgetsFirst (.use .invalidate :: events) := by
  intro before host rest h
  cases before with
  | nil => cases h
  | cons first before =>
    obtain rfl := (List.cons.inj h).1
    exact List.mem_cons_self

theorem not_forgetsFirst_lookup (host : String) (events : List CacheEvent) :
    ¬ ForgetsFirst (.use (.lookup host) :: events) := by
  intro h
  cases h [] host events rfl

theorem ForgetsFirst.tail {event : CacheEvent} {events : List CacheEvent}
    (h : ForgetsFirst (event :: events)) (hevent : event ≠ .use .invalidate) :
    ForgetsFirst events := by
  intro before host rest hsplit
  have hmem := h (event :: before) host rest (by rw [hsplit]; rfl)
  exact (List.mem_cons.1 hmem).resolve_left fun hsame => hevent hsame.symm

theorem ForgetsChanges.head {inner : String → Classification} {events : List CacheEvent}
    (h : ForgetsChanges (.change inner :: events)) : ForgetsFirst events :=
  h [] inner events rfl

theorem forgetsChanges_nil : ForgetsChanges [] := by
  intro before inner rest h
  cases before <;> cases h

theorem ForgetsChanges.cons {event : CacheEvent} {events : List CacheEvent}
    (h : ForgetsChanges events) (hchange : ∀ inner, event = .change inner → ForgetsFirst events) :
    ForgetsChanges (event :: events) := by
  intro before inner rest hsplit
  cases before with
  | nil =>
    obtain ⟨hevent, rfl⟩ := List.cons.inj hsplit
    exact hchange inner hevent
  | cons first before => exact h before inner rest (List.cons.inj hsplit).2

theorem ForgetsChanges.tail {event : CacheEvent} {events : List CacheEvent}
    (h : ForgetsChanges (event :: events)) : ForgetsChanges events := by
  intro before inner rest hsplit
  exact h (event :: before) inner rest (by rw [hsplit]; rfl)

namespace CacheRun

variable {run : CacheRun} {events : List CacheEvent}

/-- Either the cache agrees with the classifier or it forgets everything before it is read. -/
def Sound (run : CacheRun) (events : List CacheEvent) : Prop :=
  run.cache.Agrees run.inner ∨ ForgetsFirst events

theorem Sound.step {event : CacheEvent} (h : run.Sound (event :: events))
    (hchanges : ForgetsChanges (event :: events)) : (run.step event).Sound events := by
  cases event with
  | change inner => exact Or.inr hchanges.head
  | hold count =>
    rcases h with hagrees | hforgets
    · exact Or.inl hagrees
    · exact Or.inr (hforgets.tail (by simp))
  | use use =>
    rcases h with hagrees | hforgets
    · exact Or.inl (hagrees.after use)
    · by_cases hinvalidate : use = .invalidate
      -- An empty cache agrees with every classifier, so the change before is over.
      · subst hinvalidate
        exact Or.inl (CachedClassifier.agrees_new run.cache.capacity)
      · exact Or.inr (hforgets.tail (by simpa using hinvalidate))

theorem Sound.read {event : CacheEvent} (h : run.Sound (event :: events)) {read : CacheRead}
    (hread : run.read? event = some read) : read.found.classification = read.inner read.host := by
  unfold read? at hread
  split at hread <;> cases hread
  rcases h with hagrees | hforgets
  · exact (hagrees.classify _).1
  · exact absurd hforgets (not_forgetsFirst_lookup _ _)

theorem Sound.reads (h : run.Sound events) (hchanges : ForgetsChanges events) :
    ∀ read ∈ run.reads events, read.found.classification = read.inner read.host := by
  induction events generalizing run with
  | nil => simp [CacheRun.reads]
  | cons event events ih =>
    intro read hread
    rcases List.mem_append.1 hread with hfirst | hrest
    · exact h.read (Option.mem_toList.1 hfirst)
    · exact ih (h.step hchanges) hchanges.tail read hrest

end CacheRun

namespace CachedClassifier

variable {cache : CachedClassifier} {inner : String → Classification} {host : String}

@[simp] theorem stats_record (cache : CachedClassifier) (host : String) :
    (cache.record host).stats = cache.stats := by
  rw [record]
  split <;> rfl

@[simp] theorem stats_remember (cache : CachedClassifier) (host : String)
    (classification : Classification) :
    (cache.remember host classification).stats = cache.stats := by
  rw [remember]
  split <;> rfl

/-- Either the decision was remembered and the classifier is left alone, or it is asked once, about
the host and nothing else. -/
theorem lookup_cases {κ : Type} (cache : CachedClassifier) (ask : Classifier κ) (host : String)
    (state : κ) :
    (cache.lookup ask host state).classifier = state ∧
        (cache.lookup ask host state).cache.stats =
          { cache.stats with hits := cache.stats.hits + 1 } ∨
      (cache.lookup ask host state).classifier = (ask host state).2 ∧
        (cache.lookup ask host state).classification = (ask host state).1 ∧
        (cache.lookup ask host state).cache.stats =
          { cache.stats with misses := cache.stats.misses + 1 } := by
  simp only [lookup, entries_record, stats_record]
  cases cache.entries[host]? with
  | some classification => exact .inl ⟨rfl, rfl⟩
  | none => exact .inr ⟨rfl, rfl, stats_remember _ _ _⟩

/-- A miss asks about the host, exactly once, and a hit asks about nothing. -/
theorem classifier_classify (cache : CachedClassifier) (inner : String → Classification)
    (host : String) :
    (cache.classify inner host).classifier =
      if (cache.classify inner host).asked then [host] else [] := by
  rcases cache.lookup_cases (fun host asked => (inner host, asked ++ [host])) host [] with
    ⟨hasked, -⟩ | ⟨hasked, -⟩
  · rw [CacheLookup.asked, classify, hasked]
    rfl
  · rw [CacheLookup.asked, classify, hasked]
    rfl

theorem stats_classify (cache : CachedClassifier) (inner : String → Classification)
    (host : String) :
    (cache.classify inner host).cache.stats =
      if (cache.classify inner host).asked then
        { cache.stats with misses := cache.stats.misses + 1 }
      else { cache.stats with hits := cache.stats.hits + 1 } := by
  rcases cache.lookup_cases (fun host asked => (inner host, asked ++ [host])) host [] with
    ⟨hasked, hstats⟩ | ⟨hasked, -, hstats⟩
  · rw [CacheLookup.asked, classify, hasked, hstats]
    rfl
  · rw [CacheLookup.asked, classify, hasked, hstats]
    rfl

theorem report_lookup {κ : Type} (cache : CachedClassifier) (ask : Classifier κ) (host : String)
    (state : κ) :
    (cache.lookup ask host state).report = reportOf (cache.lookup ask host state).cache.stats := by
  simp only [lookup, entries_record, stats_record]
  cases cache.entries[host]? <;> simp

theorem classify_congr {other : String → Classification}
    (h : (cache.classify inner host).asked = true → other host = inner host) :
    cache.classify other host = cache.classify inner host := by
  simp only [CacheLookup.asked, classify, lookup, entries_record] at h ⊢
  cases hentry : cache.entries[host]? with
  | some classification => rfl
  | none =>
    rw [hentry] at h
    simp only [h rfl]

def unlogged (cache : CachedClassifier) : CachedClassifier :=
  { cache with recording := false, log := .empty maxLoggedHosts }

@[simp] theorem record_unlogged (cache : CachedClassifier) (host : String) :
    cache.unlogged.record host = cache.unlogged := rfl

@[simp] theorem unlogged_remember (cache : CachedClassifier) (host : String)
    (classification : Classification) :
    (cache.remember host classification).unlogged =
      cache.unlogged.remember host classification := by
  by_cases hroom : cache.entries.size < cache.capacity <;> simp [remember, unlogged, hroom]

theorem capacity_record (cache : CachedClassifier) (host : String) :
    (cache.record host).capacity = cache.capacity := by
  rw [record]
  split <;> rfl

theorem classify_unlogged (cache : CachedClassifier) (inner : String → Classification)
    (host : String) :
    cache.unlogged.classify inner host =
      { cache.classify inner host with cache := (cache.classify inner host).cache.unlogged } := by
  have hentries : cache.unlogged.entries = cache.entries := rfl
  have hstats : cache.unlogged.stats = cache.stats := rfl
  simp only [classify, lookup, entries_record, stats_record, record_unlogged, hentries, hstats]
  cases cache.entries[host]? with
  | some classification => simp only [unlogged, capacity_record]
  | none =>
    simp only [unlogged_remember]
    simp only [unlogged, capacity_record]

end CachedClassifier

namespace CacheRun

variable {run : CacheRun} {event : CacheEvent} {events : List CacheEvent} {read : CacheRead}

theorem stats_step_of_none (h : run.read? event = none) :
    (run.step event).cache.stats = run.cache.stats := by
  cases event with
  | use use =>
    cases use with
    | lookup host => cases h
    | _ => rfl
  | hold count => rfl
  | change inner => rfl

theorem of_read? (h : run.read? event = some read) :
    read.toCacheRun = run ∧ (run.step event).cache = read.found.cache := by
  unfold read? at h
  split at h <;> cases h
  exact ⟨rfl, rfl⟩

theorem lookups_found (read : CacheRead) :
    read.found.cache.stats.lookups = read.cache.stats.lookups + 1 := by
  unfold CacheRead.found
  rw [CachedClassifier.stats_classify]
  unfold CacheStats.lookups
  split
  · exact (Nat.add_assoc _ _ _).symm
  · exact Nat.succ_add _ _

theorem lookups_step (run : CacheRun) (event : CacheEvent) :
    (run.step event).cache.stats.lookups =
      run.cache.stats.lookups + (run.read? event).toList.length := by
  cases hread : run.read? event with
  | none =>
    rw [stats_step_of_none hread]
    rfl
  | some read =>
    obtain ⟨hrun, hcache⟩ := of_read? hread
    rw [hcache, lookups_found, ← hrun]
    rfl

theorem misses_step (run : CacheRun) (event : CacheEvent) :
    (run.step event).cache.stats.misses =
      run.cache.stats.misses + (run.read? event).toList.countP (·.found.asked) := by
  cases hread : run.read? event with
  | none =>
    rw [stats_step_of_none hread]
    rfl
  | some read =>
    obtain ⟨hrun, hcache⟩ := of_read? hread
    have hstats := CachedClassifier.stats_classify read.cache read.inner read.host
    rw [hcache, ← hrun, CacheRead.found, hstats]
    by_cases hasked : (read.cache.classify read.inner read.host).asked <;>
      simp [CacheRead.found, hasked]

theorem lookups_after (run : CacheRun) (events : List CacheEvent) :
    (run.after events).cache.stats.lookups =
      run.cache.stats.lookups + (run.reads events).length := by
  induction events generalizing run with
  | nil => rfl
  | cons event events ih =>
    have hrest := ih (run.step event)
    rw [lookups_step, Nat.add_assoc, ← List.length_append] at hrest
    exact hrest

theorem misses_after (run : CacheRun) (events : List CacheEvent) :
    (run.after events).cache.stats.misses =
      run.cache.stats.misses + (run.reads events).countP (·.found.asked) := by
  induction events generalizing run with
  | nil => rfl
  | cons event events ih =>
    have hrest := ih (run.step event)
    rw [misses_step, Nat.add_assoc, ← List.countP_append] at hrest
    exact hrest

theorem length_asked (run : CacheRun) (events : List CacheEvent) :
    (run.asked events).length = (run.reads events).countP (·.found.asked) := by
  unfold asked
  induction run.reads events with
  | nil => rfl
  | cons read reads ih =>
    rw [List.flatMap_cons, List.length_append, ih, List.countP_cons, Nat.add_comm]
    congr 1
    rw [CacheRead.found, CachedClassifier.classifier_classify]
    split <;> rfl

theorem lookups_read {k : Nat} (h : (run.reads events)[k]? = some read) :
    read.cache.stats.lookups = run.cache.stats.lookups + k := by
  induction events generalizing run k with
  | nil => cases h
  | cons event events ih =>
    rw [CacheRun.reads] at h
    cases hread : run.read? event with
    | none =>
      rw [hread] at h
      rw [ih h, stats_step_of_none hread]
    | some first =>
      obtain ⟨rfl, hcache⟩ := of_read? hread
      rw [hread] at h
      cases k with
      | zero =>
        cases h
        rfl
      | succ k =>
        have hrest : ((first.toCacheRun.step event).reads events)[k]? = some read := h
        rw [ih hrest, hcache, lookups_found]
        omega

def unlogged (run : CacheRun) : CacheRun := { run with cache := run.cache.unlogged }

end CacheRun

def CacheEvent.isLogging : CacheEvent → Bool
  | .use (.setRecording _) => true
  | .use .clearLog => true
  | _ => false

def CacheRun.outcomes (run : CacheRun) (events : List CacheEvent) :
    List (String × Classification × List String × Option CacheStats) :=
  (run.reads events).map CacheRead.outcome

namespace CacheRun

theorem unlogged_step_logging (run : CacheRun) {event : CacheEvent} (h : event.isLogging = true) :
    (run.step event).unlogged = run.unlogged ∧ run.read? event = none := by
  unfold CacheEvent.isLogging at h
  split at h
  · exact ⟨rfl, rfl⟩
  · exact ⟨rfl, rfl⟩
  · cases h

theorem unlogged_step (run : CacheRun) {event : CacheEvent} (h : event.isLogging = false) :
    run.unlogged.step event = (run.step event).unlogged ∧
      (run.unlogged.read? event).toList.map CacheRead.outcome =
        (run.read? event).toList.map CacheRead.outcome := by
  cases event with
  | use use =>
    cases use with
    | lookup host =>
      have hfound := CachedClassifier.classify_unlogged run.cache run.inner host
      constructor
      · exact congrArg (fun found : CacheLookup _ => (⟨found.cache, run.inner⟩ : CacheRun)) hfound
      · simp [read?, CacheRead.outcome, CacheRead.found, unlogged, hfound]
    | setRecording recording => cases h
    | clearLog => cases h
    | _ => exact ⟨rfl, rfl⟩
  | hold count => exact ⟨rfl, rfl⟩
  | change inner => exact ⟨rfl, rfl⟩

/-- The lookups of a run are those of the run without everything about the log. -/
theorem outcomes_unlogged (run : CacheRun) (events : List CacheEvent) :
    run.outcomes events = run.unlogged.outcomes (events.filter (!·.isLogging)) := by
  induction events generalizing run with
  | nil => rfl
  | cons event events ih =>
    have hrest := ih (run.step event)
    unfold outcomes at hrest ⊢
    rw [reads, List.map_append, hrest]
    cases hlogging : event.isLogging with
    | true =>
      obtain ⟨hsame, hnone⟩ := run.unlogged_step_logging hlogging
      rw [List.filter_cons_of_neg (by simp [hlogging]), hsame, hnone]
      rfl
    | false =>
      obtain ⟨hstep, hread⟩ := run.unlogged_step hlogging
      rw [List.filter_cons_of_pos (by simp [hlogging]), reads, List.map_append, hstep, hread]

/-- What a cache that nobody notices does over a run. -/
structure Unnoticed (run : CacheRun) (events : List CacheEvent) : Prop where
  decides : ∀ read ∈ run.reads events, read.found.classification = read.inner read.host
  lookups : (run.after events).cache.stats.hits + (run.after events).cache.stats.misses =
    (run.reads events).length
  misses : (run.after events).cache.stats.misses = (run.reads events).countP (·.found.asked)
  /-- There was one question for each miss. -/
  asked : (run.asked events).length = (run.after events).cache.stats.misses
  consults : ∀ read ∈ run.reads events,
    read.found.classifier = if read.found.asked then [read.host] else []
  counts : ∀ read ∈ run.reads events, read.found.cache.stats =
    if read.found.asked then { read.cache.stats with misses := read.cache.stats.misses + 1 }
    else { read.cache.stats with hits := read.cache.stats.hits + 1 }
  /-- What the classifier says matters on a miss, and only what it says about the host. -/
  asks : ∀ read ∈ run.reads events, ∀ other : String → Classification,
    (read.found.asked = true → other read.host = read.inner read.host) →
      read.cache.classify other read.host = read.found
  reports : ∀ k read, (run.reads events)[k]? = some read →
    read.found.cache.stats.lookups = k + 1 ∧
      read.found.report = if 1000 ∣ k + 1 then some read.found.cache.stats else none
  /-- Other events about the log would have made no difference. -/
  unlogged : ∀ others : List CacheEvent,
    others.filter (!·.isLogging) = events.filter (!·.isLogging) →
      run.outcomes others = run.outcomes events

/-- However a new cache is used, and whatever it keeps of what it was told, nobody notices it as long
as it forgets everything between a change of the classifier and the next lookup. -/
theorem new_unnoticed (capacity : Nat) (inner : String → Classification) {events : List CacheEvent}
    (h : ForgetsChanges events) : Unnoticed ⟨.new capacity, inner⟩ events where
  decides := by
    have hsound : Sound ⟨.new capacity, inner⟩ events :=
      Or.inl (CachedClassifier.agrees_new capacity)
    exact hsound.reads h
  lookups := by
    have hlookups := lookups_after ⟨.new capacity, inner⟩ events
    rwa [show (CachedClassifier.new capacity).stats.lookups = 0 from rfl, Nat.zero_add] at hlookups
  misses := by
    have hmisses := misses_after ⟨.new capacity, inner⟩ events
    rwa [show (CachedClassifier.new capacity).stats.misses = 0 from rfl, Nat.zero_add] at hmisses
  asked := by
    have hmisses := misses_after ⟨.new capacity, inner⟩ events
    rw [hmisses, length_asked]
    exact (Nat.zero_add _).symm
  consults := fun read _ => CachedClassifier.classifier_classify read.cache read.inner read.host
  counts := fun read _ => CachedClassifier.stats_classify read.cache read.inner read.host
  asks := fun read _ other hother => CachedClassifier.classify_congr hother
  reports := by
    intro k read hread
    have hnumber := lookups_read hread
    have hlookups : read.found.cache.stats.lookups = k + 1 := by
      rw [lookups_found, hnumber]
      exact congrArg (· + 1) (Nat.zero_add k)
    refine ⟨hlookups, ?_⟩
    have hreport : read.found.report = CachedClassifier.reportOf read.found.cache.stats :=
      CachedClassifier.report_lookup _ _ _ _
    rw [hreport, CachedClassifier.reportOf, hlookups]
    exact if_congr Nat.dvd_iff_mod_eq_zero.symm rfl rfl
  unlogged := by
    intro others hothers
    rw [outcomes_unlogged _ others, outcomes_unlogged _ events, hothers]

/-- A host is looked up, blocked from then on, and looked up twice once the cache was emptied. -/
def blockingEvents : List CacheEvent :=
  [.use (.lookup "ads.example.com"), .change fun _ => .blocked, .use .invalidate,
    .use (.setRecording true), .use (.lookup "ads.example.com"), .use (.lookup "ads.example.com")]

theorem forgetsChanges_blockingEvents : ForgetsChanges blockingEvents := by
  have hnone : ForgetsChanges [] := forgetsChanges_nil
  refine .cons (.cons (.cons (.cons (.cons (.cons hnone ?_) ?_) ?_) ?_) ?_) ?_
  · rintro inner ⟨⟩
  · rintro inner ⟨⟩
  · rintro inner ⟨⟩
  · rintro inner ⟨⟩
  · exact fun _ _ => forgetsFirst_invalidate _
  · rintro inner ⟨⟩

/-- The new decision is noticed at once, asked for once, and taken from the cache the second time. -/
theorem new_unnoticed_blocking :
    let run : CacheRun := ⟨.new 1, fun _ => .allowed⟩
    ForgetsChanges blockingEvents ∧ Unnoticed run blockingEvents ∧
      (run.reads blockingEvents).map (·.found.classification) = [.allowed, .blocked, .blocked] ∧
      run.asked blockingEvents = ["ads.example.com", "ads.example.com"] ∧
      (run.after blockingEvents).cache.stats = ⟨1, 2⟩ := by
  intro run
  have hunnoticed : Unnoticed run blockingEvents :=
    new_unnoticed 1 _ forgetsChanges_blockingEvents
  refine ⟨forgetsChanges_blockingEvents, hunnoticed, ?_, ?_⟩
  · rw [List.map_congr_left hunnoticed.decides]
    rfl
  · constructor <;>
      simp [run, blockingEvents, CacheRun.asked, reads, read?, step, CacheRun.after,
        CacheRead.found, CachedClassifier.after, CachedClassifier.classify,
        CachedClassifier.lookup, CachedClassifier.new, CachedClassifier.record,
        CachedClassifier.remember, CachedClassifier.invalidate, CachedClassifier.setRecording]

end CacheRun

end Sinkhole
