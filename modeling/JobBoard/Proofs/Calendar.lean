import JobBoard.Time.Date

/-!
Days and dates. Years are counted from March, so that the leap day is the last day of its year; four years are a cycle,
25 cycles a century and four centuries an era, but that the last year of a cycle, of a century and of an era each may be
a day longer or shorter than the others. Every day has one date, which is one of the calendar.
-/

namespace JobBoard.Date

/-- Day `d` of year `j` of cycle `q` of century `c` of an era; a day 365 is a leap day. -/
structure InEra (c q j d : Int) : Prop where
  century : 0 ≤ c ∧ c ≤ 3
  cycle : 0 ≤ q ∧ q ≤ 24
  year : 0 ≤ j ∧ j ≤ 3
  day : 0 ≤ d ∧ (d ≤ 364 ∨ d = 365 ∧ j = 3 ∧ (q = 24 → c = 3))

def dayInEra (c q j d : Int) : Int := 36524 * c + 1461 * q + 365 * j + d

variable {c q j d : Int}

theorem exists_inEra {e : Int} (h₀ : 0 ≤ e) (h : e < 146097) :
    ∃ c q j d, InEra c q j d ∧ dayInEra c q j d = e := by
  -- The last day of an era, a century or a cycle belongs to the last part of it.
  obtain ⟨c, hc⟩ : ∃ c, c = min (e / 36524) 3 := ⟨_, rfl⟩
  obtain ⟨q, hq⟩ : ∃ q, q = min ((e - 36524 * c) / 1461) 24 := ⟨_, rfl⟩
  obtain ⟨j, hj⟩ : ∃ j, j = min ((e - 36524 * c - 1461 * q) / 365) 3 := ⟨_, rfl⟩
  refine ⟨c, q, j, e - 36524 * c - 1461 * q - 365 * j, ⟨?_, ?_, ?_, ?_⟩, ?_⟩
  · omega
  · omega
  · omega
  · omega
  · unfold dayInEra
    omega

theorem InEra.bounds (h : InEra c q j d) : 0 ≤ dayInEra c q j d ∧ dayInEra c q j d < 146097 := by
  obtain ⟨hc, hq, hj, hd⟩ := h
  unfold dayInEra
  omega

theorem InEra.year_eq (h : InEra c q j d) :
    let e := dayInEra c q j d
    (e - e / 1460 + e / 36524 - e / 146096) / 365 = 100 * c + 4 * q + j := by
  obtain ⟨hc, hq, hj, hd⟩ := h
  unfold dayInEra
  intro e
  by_cases hlast : e = 146096
  · rw [hlast]
    omega
  · have h₁ : e / 36524 = c := by omega
    have h₂ : e / 146096 = 0 := by omega
    have h₃ : e / 1460 = 25 * c + q + (24 * c + q + 365 * j + d) / 1460 := by omega
    rw [h₁, h₂, h₃]
    omega

theorem InEra.before_eq (h : InEra c q j d) :
    365 * (100 * c + 4 * q + j) + (100 * c + 4 * q + j) / 4 - (100 * c + 4 * q + j) / 100 + d =
      dayInEra c q j d := by
  obtain ⟨hc, hq, hj, hd⟩ := h
  unfold dayInEra
  omega

def ofMarch (year d : Int) : Date :=
  let month := (5 * d + 2) / 153
  let day := (d - daysBefore month + 1).toNat
  if month < 10 then ⟨year, (month + 3).toNat, day⟩ else ⟨year + 1, (month - 9).toNat, day⟩

theorem InEra.ofDays (h : InEra c q j d) (era : Int) :
    Date.ofDays (era * 146097 + dayInEra c q j d - 719468) = ofMarch (era * 400 + (100 * c + 4 * q + j)) d := by
  have hb := h.bounds
  have hera : (era * 146097 + dayInEra c q j d - 719468 + 719468) / 146097 = era := by omega
  have hrest : (era * 146097 + dayInEra c q j d - 719468 + 719468) % 146097 = dayInEra c q j d := by omega
  have hday : dayInEra c q j d -
      (365 * (100 * c + 4 * q + j) + (100 * c + 4 * q + j) / 4 - (100 * c + 4 * q + j) / 100) = d := by
    rw [← h.before_eq]
    omega
  unfold Date.ofDays ofMarch
  dsimp only
  rw [hera, hrest, h.year_eq, hday, Int.add_comm (100 * c + 4 * q + j)]

theorem exists_ofDays (n : Int) : ∃ era c q j d, InEra c q j d ∧ n = era * 146097 + dayInEra c q j d - 719468 ∧
    Date.ofDays n = ofMarch (era * 400 + (100 * c + 4 * q + j)) d := by
  obtain ⟨c, q, j, d, h, he⟩ := exists_inEra (e := (n + 719468) % 146097) (by omega) (by omega)
  have hn : n = (n + 719468) / 146097 * 146097 + dayInEra c q j d - 719468 := by
    rw [he]
    omega
  refine ⟨_, c, q, j, d, h, hn, ?_⟩
  rw [← h.ofDays, ← hn]

theorem toDays_ofMarch (year : Int) (h₀ : 0 ≤ d) (h : d ≤ 365) :
    (ofMarch year d).toDays =
      year / 400 * 146097 + (year % 400 * 365 + year % 400 / 4 - year % 400 / 100 + d) - 719468 := by
  have hmonth : 0 ≤ (5 * d + 2) / 153 ∧ (5 * d + 2) / 153 ≤ 11 := by omega
  unfold ofMarch toDays daysBefore
  dsimp only
  split
  · dsimp only
    rw [if_neg (by omega), if_neg (by omega)]
    omega
  · dsimp only
    rw [if_pos (by omega), if_pos (by omega), Int.add_sub_cancel]
    omega

theorem toDays_ofDays (n : Int) : (Date.ofDays n).toDays = n := by
  obtain ⟨era, c, q, j, d, h, hn, hdate⟩ := exists_ofDays n
  have hbefore := h.before_eq
  have hyear : 0 ≤ 100 * c + 4 * q + j ∧ 100 * c + 4 * q + j < 400 := by
    obtain ⟨hc, hq, hj, -⟩ := h
    omega
  have h₁ : (era * 400 + (100 * c + 4 * q + j)) / 400 = era := by omega
  have h₂ : (era * 400 + (100 * c + 4 * q + j)) % 400 = 100 * c + 4 * q + j := by omega
  have hd := h.day
  rw [hdate, toDays_ofMarch _ hd.1 (by omega), h₁, h₂]
  omega

def IsDay (d : Date) : Prop := 1 ≤ d.month ∧ d.month ≤ 12 ∧ 1 ≤ d.day ∧ d.day ≤ daysInMonth d.year d.month

theorem isLeapYear_iff (y : Int) : isLeapYear y = true ↔ y % 4 = 0 ∧ (y % 100 ≠ 0 ∨ y % 400 = 0) := by
  simp only [isLeapYear, Bool.and_eq_true, beq_iff_eq, Bool.or_eq_true, bne_iff_ne]

theorem daysBefore_le (d : Int) :
    daysBefore ((5 * d + 2) / 153) ≤ d ∧ d < daysBefore ((5 * d + 2) / 153 + 1) := by
  unfold daysBefore
  omega

theorem daysInMonth_of_lt (y : Int) {m : Int} (h₀ : 0 ≤ m) (h : m < 10) :
    (daysInMonth y (m + 3).toNat : Int) = daysBefore (m + 1) - daysBefore m := by
  have hm : m = 0 ∨ m = 1 ∨ m = 2 ∨ m = 3 ∨ m = 4 ∨ m = 5 ∨ m = 6 ∨ m = 7 ∨ m = 8 ∨ m = 9 := by omega
  rcases hm with rfl | rfl | rfl | rfl | rfl | rfl | rfl | rfl | rfl | rfl <;> rfl

theorem ofMarch_isDay (year : Int) (h₀ : 0 ≤ d) (h : d ≤ 364 ∨ d = 365 ∧ isLeapYear (year + 1) = true) :
    (ofMarch year d).IsDay := by
  obtain ⟨hstart, hend⟩ := daysBefore_le d
  have hm : 0 ≤ (5 * d + 2) / 153 ∧ (5 * d + 2) / 153 ≤ 11 := by omega
  unfold ofMarch
  dsimp only
  generalize (5 * d + 2) / 153 = m at *
  split
  · rename_i hlt
    have hlength := daysInMonth_of_lt year hm.1 hlt
    refine ⟨?_, ?_, ?_, ?_⟩ <;> dsimp only <;> omega
  · rcases (by omega : m = 10 ∨ m = 11) with rfl | rfl
    · change (1 ≤ 1 ∧ 1 ≤ 12 ∧ 1 ≤ (d - 306 + 1).toNat ∧ (d - 306 + 1).toNat ≤ 31)
      change (306 ≤ d) at hstart
      change (d < 337) at hend
      omega
    · change (1 ≤ 2 ∧ 2 ≤ 12 ∧ 1 ≤ (d - 337 + 1).toNat ∧
        (d - 337 + 1).toNat ≤ if isLeapYear (year + 1) then 29 else 28)
      change (337 ≤ d) at hstart
      rcases h with h | ⟨rfl, hleap⟩
      · split <;> omega
      · rw [if_pos hleap]
        omega

theorem ofDays_isDay (n : Int) : (Date.ofDays n).IsDay := by
  obtain ⟨era, c, q, j, d, h, -, hdate⟩ := exists_ofDays n
  obtain ⟨hc, hq, hj, h₀, hd⟩ := h
  rw [hdate]
  refine ofMarch_isDay _ h₀ (hd.imp_right ?_)
  rintro ⟨rfl, rfl, hlast⟩
  refine ⟨rfl, (isLeapYear_iff _).2 ⟨by omega, ?_⟩⟩
  by_cases hq24 : q = 24
  · have := hlast hq24
    omega
  · omega

end JobBoard.Date
