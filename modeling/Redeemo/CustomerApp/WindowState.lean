import Redeemo.Discovery.VoucherScreens
import Redeemo.Merchant.WindowSearch

/-! The app's reading of a TIME_LIMITED payload, as the clock runs on.

    What the payload says of its instants is trusted until they have passed; then the app searches the windows itself,
    with a copy of the server's searches. The instants are as exact as the server computes them: on the days on which
    the clocks change, after the change, they can be trusted for an hour too long. -/

namespace Redeemo.CustomerApp.TimeLimitedWindow
open VoucherAvailability VoucherScreens London Dates AvailabilityWindows

def URGENT_THRESHOLD_MS : ℤ := 60 * 60000

inductive WindowState
  | active
  | urgent
  | unavailableToday
  | unavailableFutureDay
  | noWindows
  | reusableAvailable
  | reusableCooldown
  deriving DecidableEq, Repr

/-- Word for word the server's, like the searches below. -/
def getLondonClock (now : ℤ) : LondonClock := London.getLondonClock now

def getCurrentWindowOccurrence (windows : List AvailabilityWindow) (now : ℤ) : Except String (Option WindowOccurrence) :=
  VoucherAvailability.getCurrentWindowOccurrence windows now

def getNextWindowOccurrence (windows : List AvailabilityWindow) (now : ℤ) : Except String (Option WindowOccurrence) :=
  VoucherAvailability.getNextWindowOccurrence windows now

/-- Of an occurrence that ends then. -/
def openState (endsAt now : ℤ) : WindowState := if endsAt - now < URGENT_THRESHOLD_MS then .urgent else .active

/-- Before an occurrence that starts then. -/
def closedState (startsAt now : ℤ) : WindowState :=
  if (getLondonClock now).dayOfWeek = (getLondonClock startsAt).dayOfWeek then .unavailableToday
  else .unavailableFutureDay

def nextState (nextOcc : Option WindowOccurrence) (now : ℤ) : WindowState :=
  match nextOcc with
  | some occ => closedState occ.startsAt now
  | none => .noWindows

def getWindowState (input : TimeLimitedPayload) (now : ℤ) : Except String WindowState :=
  if input.availabilityWindows = [] then .ok .noWindows
  else match input.currentWindow.filter fun occ => now < occ.endsAt with
    | some occ => .ok (openState occ.endsAt now)
    | none => do
      let reCurrent ← getCurrentWindowOccurrence input.availabilityWindows now
      match reCurrent with
      | some occ => return openState occ.endsAt now
      | none =>
        match input.nextWindow.filter fun occ => now < occ.startsAt with
        | some occ => return closedState occ.startsAt now
        | none =>
          let nextOcc ← getNextWindowOccurrence input.availabilityWindows now
          return nextState nextOcc now

/-! ### The state tracks the server's -/

/-- The app and the server agree, whatever the voucher's redemptions, and the voucher is shown as open exactly if the
    guard of the redemption lets it through. -/
def Tracks (windows : List AvailabilityWindow) (t now : ℤ) : Prop :=
  ∀ last p q, computeTimeLimitedPayload .TIME_LIMITED windows last t = .ok p →
    computeTimeLimitedPayload .TIME_LIMITED windows last now = .ok q →
      getWindowState p now = getWindowState q now ∧
        (getWindowState p now = .ok .active ∨ getWindowState p now = .ok .urgent ↔
          ∃ occ, Redemption.currentWindow windows now = .ok occ)

/-- An occurrence was open whose computed end is to come, and none is open that has as much or as little time left. -/
def CurrentMisleads (windows : List AvailabilityWindow) (t now : ℤ) : Prop :=
  ∃ o : Occurrence, o.Holds windows t ∧ now < o.endsAt ∧ ∀ p : Occurrence, p.Holds windows now →
    ¬ (p.endsAt - now < URGENT_THRESHOLD_MS ↔ o.endsAt - now < URGENT_THRESHOLD_MS)

/-- Nothing is open, and of the next opening from then and the one from now exactly one is today, though the computed
    start of the former is to come. -/
def NextMisleads (windows : List AvailabilityWindow) (t now : ℤ) : Prop :=
  (∀ o : Occurrence, o.Holds windows t → o.endsAt ≤ now) ∧ (∀ o : Occurrence, ¬ o.Holds windows now) ∧
    ∃ c c', IsNext windows (London.getLondonClock t).dayOfWeek (London.getLondonClock t).minutes c ∧
      IsNext windows (London.getLondonClock now).dayOfWeek (London.getLondonClock now).minutes c' ∧
      now < londonDateAtMinute t c.dayOffset c.openMin ∧
      ¬ ((London.getLondonClock now).dayOfWeek =
            (London.getLondonClock (londonDateAtMinute t c.dayOffset c.openMin)).dayOfWeek ↔
          (London.getLondonClock now).dayOfWeek =
            (London.getLondonClock (londonDateAtMinute now c'.dayOffset c'.openMin)).dayOfWeek)

/-! ### What a payload is shown as -/

section States

variable {windows : List AvailabilityWindow} {p : TimeLimitedPayload} {now : ℤ}

theorem state_trusted (hne : p.availabilityWindows ≠ []) {occ : WindowOccurrence} (hcurrent : p.currentWindow = some occ)
    (hopen : now < occ.endsAt) : getWindowState p now = .ok (openState occ.endsAt now) := by
  rw [getWindowState, if_neg hne, hcurrent, Option.filter_some, if_pos (decide_eq_true hopen)]

/-- No end that is still to come. -/
def Passed (p : TimeLimitedPayload) (now : ℤ) : Prop := ∀ occ ∈ p.currentWindow, occ.endsAt ≤ now

theorem filter_of_passed (h : Passed p now) : (p.currentWindow.filter fun occ => now < occ.endsAt) = none := by
  cases hp : p.currentWindow with
  | none => rfl
  | some occ => rw [Option.filter_some, if_neg (by simpa using h occ hp)]

theorem state_open (hne : p.availabilityWindows ≠ []) (hpassed : Passed p now) {occ : WindowOccurrence}
    (hcurrent : VoucherAvailability.getCurrentWindowOccurrence p.availabilityWindows now = .ok (some occ)) :
    getWindowState p now = .ok (openState occ.endsAt now) := by
  rw [getWindowState, if_neg hne, filter_of_passed hpassed]
  simp only [getCurrentWindowOccurrence, hcurrent]
  rfl

theorem state_next (hne : p.availabilityWindows ≠ []) (hpassed : Passed p now)
    (hcurrent : VoucherAvailability.getCurrentWindowOccurrence p.availabilityWindows now = .ok none)
    {occ : WindowOccurrence} (hnext : p.nextWindow = some occ) (hahead : now < occ.startsAt) :
    getWindowState p now = .ok (closedState occ.startsAt now) := by
  rw [getWindowState, if_neg hne, filter_of_passed hpassed]
  simp only [getCurrentWindowOccurrence, hcurrent, hnext, Option.filter_some, decide_eq_true hahead, if_true]
  rfl

theorem state_search (hne : p.availabilityWindows ≠ []) (hpassed : Passed p now)
    (hcurrent : VoucherAvailability.getCurrentWindowOccurrence p.availabilityWindows now = .ok none)
    (hnext : ∀ occ ∈ p.nextWindow, occ.startsAt ≤ now) {next : Option WindowOccurrence}
    (hsearch : VoucherAvailability.getNextWindowOccurrence p.availabilityWindows now = .ok next) :
    getWindowState p now = .ok (nextState next now) := by
  have hfilter : (p.nextWindow.filter fun occ => now < occ.startsAt) = none := by
    cases hp : p.nextWindow with
    | none => rfl
    | some occ => rw [Option.filter_some, if_neg (by simpa using hnext occ hp)]
  rw [getWindowState, if_neg hne, filter_of_passed hpassed]
  simp only [getCurrentWindowOccurrence, getNextWindowOccurrence, hcurrent, hfilter, hsearch]
  rfl

/-- The payload of the moment is shown as what the searches of the moment find. -/
theorem state_fresh_quiet (hne : p.availabilityWindows ≠ []) (hpassed : Passed p now)
    (hcurrent : VoucherAvailability.getCurrentWindowOccurrence p.availabilityWindows now = .ok none)
    (hsearch : VoucherAvailability.getNextWindowOccurrence p.availabilityWindows now = .ok p.nextWindow) :
    getWindowState p now = .ok (nextState p.nextWindow now) := by
  by_cases hnext : ∀ occ ∈ p.nextWindow, occ.startsAt ≤ now
  · exact state_search hne hpassed hcurrent hnext hsearch
  · push Not at hnext
    obtain ⟨occ, hocc, hahead⟩ := hnext
    rw [state_next hne hpassed hcurrent hocc hahead, Option.mem_def.mp hocc]
    rfl

theorem ite_eq_ite_iff {α : Type} {p q : Prop} [Decidable p] [Decidable q] {a b : α} (hab : a ≠ b) :
    (if p then a else b) = (if q then a else b) ↔ (p ↔ q) := by
  by_cases hp : p
  · by_cases hq : q
    · simp only [hp, hq, if_true]
    · simp only [hp, hq, if_true, if_false, hab, true_iff]
  · by_cases hq : q
    · simp only [hp, hq, if_true, if_false, hab.symm, iff_true]
    · simp only [hp, hq, if_false]

theorem openState_eq_iff {endsAt endsAt' : ℤ} : openState endsAt now = openState endsAt' now ↔
    (endsAt - now < URGENT_THRESHOLD_MS ↔ endsAt' - now < URGENT_THRESHOLD_MS) := ite_eq_ite_iff nofun

theorem closedState_eq_iff {startsAt startsAt' : ℤ} : closedState startsAt now = closedState startsAt' now ↔
    ((London.getLondonClock now).dayOfWeek = (London.getLondonClock startsAt).dayOfWeek ↔
      (London.getLondonClock now).dayOfWeek = (London.getLondonClock startsAt').dayOfWeek) := ite_eq_ite_iff nofun

theorem openState_shown (endsAt : ℤ) : openState endsAt now = .active ∨ openState endsAt now = .urgent := by
  rw [openState]
  split_ifs
  · exact .inr rfl
  · exact .inl rfl

theorem nextState_not_shown (next : Option WindowOccurrence) :
    ¬ (nextState next now = .active ∨ nextState next now = .urgent) := by
  cases next with
  | none => simp [nextState]
  | some occ =>
    rw [nextState, closedState]
    split_ifs <;> simp

end States

/-! ### Payloads -/

section Payloads

variable {windows : List AvailabilityWindow} {last : Option ℤ} {p q : TimeLimitedPayload} {t now : ℕ}

theorem payload_spec {t : ℤ} (h : computeTimeLimitedPayload .TIME_LIMITED windows last t = .ok p) :
    p.availabilityWindows = windows ∧
      VoucherAvailability.getCurrentWindowOccurrence windows t = .ok p.currentWindow ∧
      VoucherAvailability.getNextWindowOccurrence windows t = .ok p.nextWindow := by
  rw [computeTimeLimitedPayload, if_pos rfl] at h
  obtain ⟨current, hcurrent, h⟩ := Fallible.bind_ok_iff.mp h
  obtain ⟨next, hnext, h⟩ := Fallible.bind_ok_iff.mp h
  obtain ⟨redeemed, -, h⟩ := Fallible.bind_ok_iff.mp h
  cases h
  exact ⟨rfl, hcurrent, hnext⟩

theorem payload_exists (hr : ∀ w ∈ windows, w.Readable) (t : ℤ) :
    ∃ p, computeTimeLimitedPayload .TIME_LIMITED windows none t = .ok p := by
  obtain ⟨current, hcurrent⟩ := getCurrentWindowOccurrence_ok hr t
  obtain ⟨next, hnext⟩ := getNextWindowOccurrence_ok hr t
  refine ⟨⟨windows, current, next, none⟩, ?_⟩
  simp only [computeTimeLimitedPayload, if_true, hcurrent, hnext]
  rfl

/-- The guard of the redemption asks for an occurrence that holds the instant. -/
theorem guard_iff (hr : ∀ w ∈ windows, w.Readable) (now : ℕ) :
    (∃ occ, Redemption.currentWindow windows now = .ok occ) ↔ ∃ o : Occurrence, o.Holds windows now := by
  rcases getCurrentWindowOccurrence_eq hr now with ⟨hnone, hno⟩ | ⟨o, ho, hsome⟩
  · refine iff_of_false ?_ fun ⟨o, ho⟩ => hno o ho
    rintro ⟨occ, hocc⟩
    obtain ⟨next, hnext⟩ := getNextWindowOccurrence_ok hr now
    simp only [Redemption.currentWindow, hnone, Redemption.throwWithNext, hnext] at hocc
    cases hocc
  · refine iff_of_true ⟨⟨o.startsAt, o.endsAt⟩, ?_⟩ ⟨o, ho⟩
    simp only [Redemption.currentWindow, hsome]
    rfl

theorem current_of_holds (hr : ∀ w ∈ windows, w.Readable) (hs : Separate windows) {o : Occurrence}
    (ho : o.Holds windows now) :
    VoucherAvailability.getCurrentWindowOccurrence windows now = .ok (some ⟨o.startsAt, o.endsAt⟩) := by
  rcases getCurrentWindowOccurrence_eq hr now with ⟨-, hno⟩ | ⟨o', ho', hsome⟩
  · exact absurd ho (hno o)
  · rw [hsome, Occurrence.Holds.unique hs ho ho']

theorem current_of_none (hr : ∀ w ∈ windows, w.Readable) (hno : ∀ o : Occurrence, ¬ o.Holds windows now) :
    VoucherAvailability.getCurrentWindowOccurrence windows now = .ok none := by
  rcases getCurrentWindowOccurrence_eq hr now with ⟨hnone, -⟩ | ⟨o, ho, -⟩
  · exact hnone
  · exact absurd ho (hno o)

theorem isNext_unique {nowDay nowMin : ℤ} {c c' : Candidate} (hc : IsNext windows nowDay nowMin c)
    (hc' : IsNext windows nowDay nowMin c') : c.dayOffset = c'.dayOffset ∧ c.openMin = c'.openMin := by
  obtain ⟨w, hw, hday, hopen, -⟩ := hc.window
  obtain ⟨w', hw', hday', hopen', -⟩ := hc'.window
  obtain ⟨h0, hahead, -⟩ := hc.ahead
  obtain ⟨h0', hahead', -⟩ := hc'.ahead
  rw [Candidate.opening] at hahead hahead'
  have hle := hc.first w' hw' c'.dayOffset h0' hday' (by omega)
  have hle' := hc'.first w hw c.dayOffset h0 hday (by omega)
  omega

/-- Where the app falls back on its own search, it is shown what is so. -/
theorem state_of_holds (hr : ∀ w ∈ windows, w.Readable) (hs : Separate windows) (hp : p.availabilityWindows = windows)
    (hpassed : Passed p now) {o : Occurrence} (ho : o.Holds windows now) :
    getWindowState p now = .ok (openState o.endsAt now) := by
  have hne : p.availabilityWindows ≠ [] := hp ▸ List.ne_nil_of_mem ho.mem
  exact state_open hne hpassed (hp ▸ current_of_holds hr hs ho)

theorem fresh_of_holds (hr : ∀ w ∈ windows, w.Readable) (hs : Separate windows)
    (hq : computeTimeLimitedPayload .TIME_LIMITED windows last now = .ok q) {o : Occurrence}
    (ho : o.Holds windows now) : getWindowState q now = .ok (openState o.endsAt now) := by
  obtain ⟨hwindows, hcurrent, -⟩ := payload_spec hq
  rw [current_of_holds hr hs ho, Except.ok.injEq] at hcurrent
  rcases lt_or_ge (now : ℤ) o.endsAt with hopen | hpassed
  · exact state_trusted (hwindows ▸ List.ne_nil_of_mem ho.mem) hcurrent.symm hopen
  · refine state_of_holds hr hs hwindows (fun occ hocc => ?_) ho
    rw [← hcurrent] at hocc
    cases hocc
    exact hpassed

theorem fresh_of_none (hr : ∀ w ∈ windows, w.Readable) (hne : windows ≠ [])
    (hq : computeTimeLimitedPayload .TIME_LIMITED windows last now = .ok q) (hno : ∀ o : Occurrence, ¬ o.Holds windows now) :
    getWindowState q now = .ok (nextState q.nextWindow now) := by
  obtain ⟨hwindows, hcurrent, hnext⟩ := payload_spec hq
  have hnone := current_of_none hr hno
  rw [hnone, Except.ok.injEq] at hcurrent
  refine state_fresh_quiet (hwindows ▸ hne) (fun occ hocc => ?_) (hwindows ▸ hnone) (hwindows ▸ hnext)
  rw [← hcurrent] at hocc
  cases hocc

theorem next_spec (hr : ∀ w ∈ windows, w.Readable) {next : Option WindowOccurrence}
    (h : VoucherAvailability.getNextWindowOccurrence windows t = .ok next) :
    next = none ∧ (∀ w ∈ windows, ¬ (0 ≤ w.dayOfWeek ∧ w.dayOfWeek < 7)) ∨ ∃ c,
      IsNext windows (London.getLondonClock t).dayOfWeek (London.getLondonClock t).minutes c ∧
        next = some (occurrenceOf t c.dayOffset c) := by
  rcases getNextWindowOccurrence_found hr t with ⟨hweek, hnone⟩ | ⟨c, hc, hsome⟩
  · rw [hnone, Except.ok.injEq] at h
    exact .inl ⟨h.symm, hweek⟩
  · rw [hsome, Except.ok.injEq] at h
    exact .inr ⟨c, hc, h.symm⟩

/-- A window that opens next is of a day of the week. -/
theorem exists_week {nowDay nowMin : ℤ} {c : Candidate} (hc : IsNext windows nowDay nowMin c) :
    ∃ w ∈ windows, 0 ≤ w.dayOfWeek ∧ w.dayOfWeek < 7 := by
  obtain ⟨w, hw, hday, -⟩ := hc.window
  exact ⟨w, hw, by omega, by omega⟩

variable (windows p q t now) in
/-- What is said of two payloads. -/
def Tracked : Prop := getWindowState p now = getWindowState q now ∧
  (getWindowState p now = .ok .active ∨ getWindowState p now = .ok .urgent ↔
    ∃ occ, Redemption.currentWindow windows now = .ok occ)

/-- An occurrence was open, and its computed end is to come. -/
theorem tracked_iff_of_trusted (hr : ∀ w ∈ windows, w.Readable) (hs : Separate windows)
    (hp : computeTimeLimitedPayload .TIME_LIMITED windows last t = .ok p)
    (hq : computeTimeLimitedPayload .TIME_LIMITED windows last now = .ok q) {o : Occurrence} (ho : o.Holds windows t)
    (hlt : now < o.endsAt) : Tracked windows p q now ↔ ¬ CurrentMisleads windows t now := by
  obtain ⟨hwindows, hcurrent, -⟩ := payload_spec hp
  have hne : windows ≠ [] := List.ne_nil_of_mem ho.mem
  rw [current_of_holds hr hs ho, Except.ok.injEq] at hcurrent
  have hstate : getWindowState p now = .ok (openState o.endsAt now) :=
    state_trusted (hwindows ▸ hne) hcurrent.symm hlt
  have hshown : getWindowState p now = .ok .active ∨ getWindowState p now = .ok .urgent := by
    rw [hstate, Except.ok.injEq, Except.ok.injEq]
    exact openState_shown o.endsAt
  by_cases hopen : ∃ o' : Occurrence, o'.Holds windows now
  · obtain ⟨o', ho'⟩ := hopen
    rw [Tracked, guard_iff hr, hstate, fresh_of_holds hr hs hq ho', Except.ok.injEq, ← hstate]
    constructor
    · rintro ⟨heq, -⟩ ⟨o₁, ho₁, -, hall⟩
      obtain rfl := Occurrence.Holds.unique hs ho₁ ho
      exact hall o' ho' (openState_eq_iff.mp heq.symm)
    · intro hlead
      refine ⟨?_, iff_of_true hshown ⟨o', ho'⟩⟩
      by_contra hneq
      refine hlead ⟨o, ho, hlt, fun o₁ ho₁ hiff => ?_⟩
      obtain rfl := Occurrence.Holds.unique hs ho₁ ho'
      exact hneq (openState_eq_iff.mpr hiff).symm
  · rw [Tracked, guard_iff hr]
    refine iff_of_false (fun h => hopen (h.2.mp hshown)) (not_not.mpr ⟨o, ho, hlt, fun o' ho' => ?_⟩)
    exact absurd ⟨o', ho'⟩ hopen

/-- Nothing is open, and of what was open all has ended by now. -/
theorem tracked_iff_of_quiet (hr : ∀ w ∈ windows, w.Readable) (hne : windows ≠ [])
    (hp : computeTimeLimitedPayload .TIME_LIMITED windows last t = .ok p)
    (hq : computeTimeLimitedPayload .TIME_LIMITED windows last now = .ok q) (hpassed : Passed p now)
    (hended : ∀ o : Occurrence, o.Holds windows t → o.endsAt ≤ now) (hno : ∀ o : Occurrence, ¬ o.Holds windows now) :
    Tracked windows p q now ↔ ¬ NextMisleads windows t now := by
  obtain ⟨hwindows, -, hnext⟩ := payload_spec hp
  obtain ⟨-, -, hnext'⟩ := payload_spec hq
  have hcurrent := current_of_none hr hno
  have hguard : ¬ ∃ occ, Redemption.currentWindow windows now = .ok occ := by
    rw [guard_iff hr]
    exact fun ⟨o, ho⟩ => hno o ho
  have hhidden (next : Option WindowOccurrence) : ¬ ((.ok (nextState next now) : Except String WindowState) = .ok .active ∨
      (.ok (nextState next now) : Except String WindowState) = .ok .urgent) := by
    rw [Except.ok.injEq, Except.ok.injEq]
    exact nextState_not_shown next
  rw [Tracked, fresh_of_none hr hne hq hno]
  by_cases htrusted : ∀ occ ∈ p.nextWindow, occ.startsAt ≤ now
  · rw [state_search (hwindows ▸ hne) hpassed (hwindows ▸ hcurrent) htrusted (hwindows ▸ hnext')]
    refine iff_of_true ⟨rfl, iff_of_false (hhidden _) hguard⟩ ?_
    rintro ⟨-, -, c, c', hc, hc', hahead, -⟩
    rcases next_spec hr hnext with ⟨-, hweek⟩ | ⟨c₁, hc₁, hsome⟩
    · obtain ⟨w, hw, hwd⟩ := exists_week hc
      exact hweek w hw hwd
    · obtain ⟨hoffset, hopen⟩ := isNext_unique hc hc₁
      rw [hoffset, hopen] at hahead
      exact absurd (htrusted _ hsome) (not_le.mpr hahead)
  · push Not at htrusted
    obtain ⟨occ, hocc, hahead⟩ := htrusted
    rcases next_spec hr hnext with ⟨hnone, -⟩ | ⟨c, hc, hsome⟩
    · cases hnone.symm.trans hocc
    · cases hsome.symm.trans hocc
      rw [state_next (hwindows ▸ hne) hpassed (hwindows ▸ hcurrent) hsome hahead]
      rcases next_spec hr hnext' with ⟨-, hweek⟩ | ⟨c', hc', hsome'⟩
      · obtain ⟨w, hw, hwd⟩ := exists_week hc
        exact absurd hwd (hweek w hw)
      · have hhide := hhidden (some (occurrenceOf t c.dayOffset c))
        rw [hsome', Except.ok.injEq]
        constructor
        · rintro ⟨heq, -⟩ ⟨-, -, c₁, c₁', hc₁, hc₁', -, hdiff⟩
          obtain ⟨hoffset, hopen⟩ := isNext_unique hc₁ hc
          obtain ⟨hoffset', hopen'⟩ := isNext_unique hc₁' hc'
          rw [hoffset, hopen, hoffset', hopen'] at hdiff
          exact hdiff (closedState_eq_iff.mp heq)
        · intro hlead
          refine ⟨?_, iff_of_false hhide hguard⟩
          by_contra hneq
          exact hlead ⟨hended, hno, c, c', hc, hc', hahead, fun hiff => hneq (closedState_eq_iff.mpr hiff)⟩

theorem tracked_iff (hr : ∀ w ∈ windows, w.Readable) (hs : Separate windows)
    (hp : computeTimeLimitedPayload .TIME_LIMITED windows last t = .ok p)
    (hq : computeTimeLimitedPayload .TIME_LIMITED windows last now = .ok q) :
    Tracked windows p q now ↔ ¬ CurrentMisleads windows t now ∧ ¬ NextMisleads windows t now := by
  by_cases htrusted : ∃ o : Occurrence, o.Holds windows t ∧ now < o.endsAt
  · obtain ⟨o, ho, hlt⟩ := htrusted
    rw [tracked_iff_of_trusted hr hs hp hq ho hlt]
    exact (and_iff_left fun h => absurd (h.1 o ho) (not_le.mpr hlt)).symm
  · push Not at htrusted
    have hcurrent : ¬ CurrentMisleads windows t now := by
      rintro ⟨o, ho, hlt, -⟩
      exact absurd hlt (not_lt.mpr (htrusted o ho))
    have hpassed : Passed p now := by
      intro occ hocc
      obtain ⟨-, hfound, -⟩ := payload_spec hp
      rcases getCurrentWindowOccurrence_eq hr t with ⟨hnone, -⟩ | ⟨o, ho, hsome⟩
      · rw [hnone, Except.ok.injEq] at hfound
        cases hfound.trans hocc
      · rw [hsome, Except.ok.injEq] at hfound
        cases hfound.trans hocc
        exact htrusted o ho
    rw [and_iff_right hcurrent]
    by_cases hopen : ∃ o : Occurrence, o.Holds windows now
    · obtain ⟨o, ho⟩ := hopen
      have hstate := state_of_holds hr hs (payload_spec hp).1 hpassed ho
      refine iff_of_true ⟨hstate.trans (fresh_of_holds hr hs hq ho).symm, iff_of_true ?_ ?_⟩ fun h => h.2.1 o ho
      · rw [hstate, Except.ok.injEq, Except.ok.injEq]
        exact openState_shown o.endsAt
      · exact (guard_iff hr now).mpr ⟨o, ho⟩
    · push Not at hopen
      by_cases hne : windows = []
      · subst hne
        have hp' := (payload_spec hp).1
        have hq' := (payload_spec hq).1
        have hnone (r : TimeLimitedPayload) (hr : r.availabilityWindows = []) :
            getWindowState r now = .ok .noWindows := by rw [getWindowState, if_pos hr]
        refine iff_of_true ?_ ?_
        · rw [Tracked, hnone p hp', hnone q hq', guard_iff hr]
          exact ⟨rfl, iff_of_false (by simp) fun ⟨o, ho⟩ => hopen o ho⟩
        · rintro ⟨-, -, c, -, hc, -⟩
          obtain ⟨w, hw, -⟩ := hc.window
          cases hw
      · exact tracked_iff_of_quiet hr hne hp hq hpassed htrusted hopen

/-- Whether the app tracks the server is decided by the instants it trusts. -/
theorem tracks_iff_not_misled (hr : ∀ w ∈ windows, w.Readable) (hs : Separate windows) (t now : ℕ) :
    Tracks windows t now ↔ ¬ CurrentMisleads windows t now ∧ ¬ NextMisleads windows t now := by
  constructor
  · intro h
    obtain ⟨p, hp⟩ := payload_exists hr t
    obtain ⟨q, hq⟩ := payload_exists hr now
    exact (tracked_iff hr hs hp hq).mp (h none p q hp hq)
  · intro h last p q hp hq
    exact (tracked_iff hr hs hp hq).mpr h

/-! ### On all other days -/

/-- On the date of an instant that is not after a change the clock runs evenly. -/
theorem shift_of_sameDay (hle : t ≤ now) (hafter : ¬ AfterChange now) (hday : londonDay now = londonDay t) :
    clockShift t = 0 := by
  rw [clockShift_eq_zero_iff]
  rintro ⟨hd, hchange⟩
  have hbound := (londonDay_bounds now).2
  rw [hday] at hbound
  exact hafter ⟨londonDay t, hd, hchange.trans (Int.ofNat_le.mpr hle), hbound⟩

/-- A window that is open stays open until its computed end, unless the clocks are changed. -/
theorem holds_of_lt_endsAt (hle : t ≤ now) (hafter : ¬ AfterChange now) {o : Occurrence} (hr : o.window.Readable)
    (ho : o.Holds windows t) (hlt : now < o.endsAt) : o.Holds windows now := by
  obtain ⟨-, -, -, -, hclose⟩ := hr.minutes
  have hday : londonDay now = o.date := by
    have hmono := londonDay_mono (Int.ofNat_le.mpr hle)
    rw [ho.date] at hmono
    exact le_antisymm (londonDay_le_of_lt hafter (hlt.trans_le (dateMinute_mono hclose))) hmono
  have hsame : londonDay now = londonDay t := hday.trans ho.date.symm
  have hshift := clockShift_of_not_afterChange hafter
  have hshift' := shift_of_sameDay hle hafter hsame
  obtain ⟨hweek, hopens, -⟩ := ho.opened
  have hstart : dateMinute (londonDay t) o.window.openMin ≤ t :=
    minute_instant_le_iff.mpr (by rwa [hshift', add_zero])
  rw [← hsame] at hstart
  have hopens' := minute_instant_le_iff.mp (hstart.trans (Int.ofNat_le.mpr hle))
  have hcloses : ¬ dateMinute (londonDay now) o.window.closeMin ≤ now := by
    rw [hday]
    exact not_le.mpr hlt
  rw [minute_instant_le_iff] at hcloses
  rw [hshift, add_zero] at hopens' hcloses
  refine ⟨ho.mem, hday, ?_, hopens', not_le.mp hcloses⟩
  rw [hweek, getLondonClock_eq (Int.natCast_nonneg t), getLondonClock_eq (Int.natCast_nonneg now), hsame]

/-- Of two moments before an opening the later one has it next, if the earlier one has. -/
theorem isNext_still {day day' minute minute' : ℤ} {c c' : Candidate} (hc : IsNext windows ((day + 4) % 7) minute c)
    (hc' : IsNext windows ((day' + 4) % 7) minute' c') (hdate : day' ≤ day + c.dayOffset)
    (hclock : day * 1440 + minute ≤ day' * 1440 + minute') (hm : day ≤ day')
    (hbefore : day' * 1440 + minute' < (day + c.dayOffset) * 1440 + c.openMin) :
    day' + c'.dayOffset = day + c.dayOffset ∧ c'.openMin = c.openMin := by
  obtain ⟨w, hw, hday, hopen, -⟩ := hc.window
  obtain ⟨w', hw', hday', hopen', -⟩ := hc'.window
  obtain ⟨h0, hahead, -⟩ := hc.ahead
  obtain ⟨h0', hahead', -⟩ := hc'.ahead
  rw [Candidate.opening] at hahead hahead'
  have hle := hc'.first w hw (day + c.dayOffset - day') (by omega) (by omega) (by omega)
  have hle' := hc.first w' hw' (day' + c'.dayOffset - day) (by omega) (by omega) (by omega)
  omega

/-- A minute of an earlier date comes first. -/
theorem dayMinute_lt {day day' minute minute' : ℤ} (hday : day < day') (hlt : minute < 1440) (h0 : 0 ≤ minute') :
    day * 1440 + minute < day' * 1440 + minute' := by
  omega

/-- The minutes of the wall clock, counted on from one date to the next, do not run back. -/
theorem clock_mono (hle : t ≤ now) (hafter : ¬ AfterChange now) :
    londonDay t * 1440 + (London.getLondonClock t).minutes ≤
      londonDay now * 1440 + (London.getLondonClock now).minutes := by
  have hm := (minutes_bounds (Int.natCast_nonneg t)).2
  have hn := (minutes_bounds (Int.natCast_nonneg now)).1
  rcases (londonDay_mono (Int.ofNat_le.mpr hle)).lt_or_eq with hlt | hsame
  · exact (dayMinute_lt hlt hm hn).le
  · have hshift := shift_of_sameDay hle hafter hsame.symm
    have hself : dateMinute (londonDay t) (London.getLondonClock t).minutes ≤ t :=
      minute_instant_le_iff.mpr (by rw [hshift, add_zero])
    rw [hsame] at hself
    have hless := minute_instant_le_iff.mp (hself.trans (Int.ofNat_le.mpr hle))
    rw [clockShift_of_not_afterChange hafter, add_zero] at hless
    rw [hsame]
    exact add_le_add_right hless _

/-- What is computed to come is ahead on the wall clock. -/
theorem clock_lt_of_lt (hafter : ¬ AfterChange now) {date minute : ℤ} (hlate : londonDay now ≤ date) (h0 : 0 ≤ minute)
    (hlt : now < dateMinute date minute) :
    londonDay now * 1440 + (London.getLondonClock now).minutes < date * 1440 + minute := by
  rcases hlate.lt_or_eq with hday | rfl
  · exact dayMinute_lt hday (minutes_bounds (Int.natCast_nonneg now)).2 h0
  · have hless : ¬ dateMinute (londonDay now) minute ≤ now := not_le.mpr hlt
    rw [minute_instant_le_iff, clockShift_of_not_afterChange hafter, add_zero, not_le] at hless
    exact add_lt_add_right hless _

theorem dayOfWeek_eq (u : ℕ) : (London.getLondonClock u).dayOfWeek = (londonDay u + 4) % 7 := by
  rw [getLondonClock_eq (Int.natCast_nonneg u)]
  rfl

/-- An opening whose computed start is to come is still the next one. -/
theorem next_still_next (hr : ∀ w ∈ windows, w.Readable) (hle : t ≤ now) (hafter : ¬ AfterChange now) {c c' : Candidate}
    (hc : IsNext windows (London.getLondonClock t).dayOfWeek (London.getLondonClock t).minutes c)
    (hc' : IsNext windows (London.getLondonClock now).dayOfWeek (London.getLondonClock now).minutes c')
    (hahead : now < londonDateAtMinute t c.dayOffset c.openMin) :
    londonDay now + c'.dayOffset = londonDay t + c.dayOffset ∧ c'.openMin = c.openMin := by
  obtain ⟨w, hw, -, hopen, -⟩ := hc.window
  obtain ⟨-, h0, h1, -⟩ := (hr w hw).minutes
  rw [hopen] at h0 h1
  replace hahead : now < dateMinute (londonDay t + c.dayOffset) c.openMin := by
    rwa [londonDateAtMinute_eq (Int.natCast_nonneg t)] at hahead
  have hlate : londonDay now ≤ londonDay t + c.dayOffset :=
    londonDay_le_of_lt hafter (hahead.trans_le (dateMinute_mono h1.le))
  rw [dayOfWeek_eq] at hc hc'
  exact isNext_still hc hc' hlate (clock_mono hle hafter) (londonDay_mono (Int.ofNat_le.mpr hle))
    (clock_lt_of_lt hafter hlate h0 hahead)

/-- Trust is in place everywhere else. -/
theorem not_misled (hr : ∀ w ∈ windows, w.Readable) (hle : t ≤ now) (hafter : ¬ AfterChange now) :
    ¬ CurrentMisleads windows t now ∧ ¬ NextMisleads windows t now := by
  constructor
  · rintro ⟨o, ho, hlt, hall⟩
    exact hall o (holds_of_lt_endsAt hle hafter (hr o.window ho.mem) ho hlt) Iff.rfl
  · rintro ⟨-, -, c, c', hc, hc', hahead, hdiff⟩
    obtain ⟨hdate, hopen⟩ := next_still_next hr hle hafter hc hc' hahead
    have hstart : londonDateAtMinute now c'.dayOffset c'.openMin = londonDateAtMinute t c.dayOffset c.openMin := by
      rw [londonDateAtMinute_eq (Int.natCast_nonneg now), londonDateAtMinute_eq (Int.natCast_nonneg t), hdate, hopen]
    rw [hstart] at hdiff
    exact hdiff Iff.rfl

/-- The app tracks the server except between a change of the clocks and the end of its day; and then, too, unless an
    instant that is still trusted misleads it. -/
theorem getWindowState_tracks_iff (hok : validateAvailabilityWindows .TIME_LIMITED (some windows) = .ok ()) {t now : ℕ}
    (hle : t ≤ now) : Tracks windows t now ↔
      (AfterChange now → ¬ CurrentMisleads windows t now ∧ ¬ NextMisleads windows t now) := by
  obtain ⟨hread, hs⟩ := separate_of_ok hok
  have hr : ∀ w ∈ windows, w.Readable := fun w hw => (hread w hw).1
  rw [tracks_iff_not_misled hr hs]
  constructor
  · exact fun h _ => h
  · intro h
    by_cases hafter : AfterChange now
    · exact h hafter
    · exact not_misled hr hle hafter

end Payloads

/-- Sundays from ten to noon. -/
def brunch : List AvailabilityWindow := [⟨0, "10:00", "12:00"⟩]

/-- 5 April 2026, 10:30 in London, and half past twelve. -/
theorem getWindowState_tracks_iff_april : Tracks brunch (1775381400000 : ℕ) (1775388600000 : ℕ) :=
  (getWindowState_tracks_iff (by decide) (by decide)).mpr fun h => absurd h (by decide)

/-- A week before, on the day the clocks go forward, at half past eleven: the window is computed to end at one in the
    afternoon, and at half past twelve the app still shows it as open. -/
theorem spring_not_tracked : validateAvailabilityWindows .TIME_LIMITED (some brunch) = .ok () ∧
    ¬ Tracks brunch (1774780200000 : ℕ) (1774783800000 : ℕ) := by
  refine ⟨by decide, fun h => ?_⟩
  have hshown := h none ⟨brunch, some ⟨1774778400000, 1774785600000⟩, some ⟨1775379600000, 1775386800000⟩, none⟩
    ⟨brunch, none, some ⟨1775379600000, 1775386800000⟩, none⟩ (by decide) (by decide)
  exact absurd hshown.1 (by decide)

end Redeemo.CustomerApp.TimeLimitedWindow
