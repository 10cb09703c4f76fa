import LineAudit.Log
import Mathlib.Data.List.Basic
import Mathlib.Data.List.Infix
import Mathlib.Data.List.Nodup
import Mathlib.Tactic.Common

/-!
Loggers after any events.

What has happened decides what loggers are like: the last toggle the levels of all loggers that have
been obtained, and the first event that gives the root a handler everything about the root. Each
event keeps this up, whether it comes before, between or after others. Main result: after any events
the loggers that have been obtained are in step with the toggle, all others are as in the beginning,
and the root is set up where it has no handler, so at most once.
-/

namespace LineAudit.Log

/-! ### What has happened -/

variable {events : List Event} {e : Event}

/-- When detailed logging was last turned on or off, it was turned on. -/
def IsDetailed (events : List Event) : Prop :=
  ∃ later, .setDetailed true :: later <:+ events ∧ ∀ detailed, .setDetailed detailed ∉ later

/-- The root was to be set up at a moment when nobody else had added a handler. -/
def IsSetUp (events : List Event) : Prop :=
  ∃ earlier, earlier ++ [.configure] <+: events ∧ .addHandler ∉ earlier

/-- How many handlers others have added to the root. -/
def additions (events : List Event) : ℕ := events.countP (· matches .addHandler)

lemma not_isDetailed_nil : ¬ IsDetailed [] := by
  rintro ⟨later, hsuffix, -⟩
  exact List.cons_ne_nil _ _ (List.suffix_nil.mp hsuffix)

lemma not_isSetUp_nil : ¬ IsSetUp [] := by
  rintro ⟨earlier, hprefix, -⟩
  exact List.concat_ne_nil _ _ (List.prefix_nil.mp hprefix)

lemma isDetailed_concat : IsDetailed (events ++ [e]) ↔
    e = .setDetailed true ∨ (∀ detailed, e ≠ .setDetailed detailed) ∧ IsDetailed events := by
  constructor
  · rintro ⟨later, hall, hno⟩
    rcases List.suffix_concat_iff.mp hall with hnil | ⟨kept, hkept, hsuffix⟩
    · exact absurd hnil (List.cons_ne_nil _ _)
    · cases kept with
      | nil => exact .inl (List.cons.inj hkept).1.symm
      | cons x kept =>
        rw [List.cons_append] at hkept
        obtain ⟨rfl, rfl⟩ := List.cons.inj hkept
        simp only [List.mem_append, List.mem_singleton, not_or] at hno
        exact .inr ⟨fun d hd => (hno d).2 hd.symm, kept, hsuffix, fun d => (hno d).1⟩
  · rintro (rfl | ⟨he, later, ⟨before, rfl⟩, hno⟩)
    · exact ⟨[], List.suffix_append events _, by simp⟩
    · refine ⟨later ++ [e], ⟨before, by simp⟩, fun d hd => ?_⟩
      rcases List.mem_append.mp hd with hd | hd
      · exact hno d hd
      · exact he d (List.mem_singleton.mp hd).symm

lemma isSetUp_concat : IsSetUp (events ++ [e]) ↔
    IsSetUp events ∨ e = .configure ∧ .addHandler ∉ events := by
  constructor
  · rintro ⟨earlier, hprefix, hno⟩
    rcases List.prefix_concat_iff.mp hprefix with hall | hprefix
    · obtain ⟨rfl, he⟩ := List.append_inj' hall rfl
      exact .inr ⟨(List.cons.inj he).1.symm, hno⟩
    · exact .inl ⟨earlier, hprefix, hno⟩
  · rintro (⟨earlier, hprefix, hno⟩ | ⟨rfl, hno⟩)
    · exact ⟨earlier, List.prefix_concat_iff.mpr (.inr hprefix), hno⟩
    · exact ⟨events, List.prefix_rfl, hno⟩

lemma additions_concat (events : List Event) (e : Event) :
    additions (events ++ [e]) = additions events + if e matches .addHandler then 1 else 0 := by
  simp [additions, List.countP_append, List.countP_singleton]

lemma additions_eq_zero_iff : additions events = 0 ↔ .addHandler ∉ events := by
  rw [additions, List.countP_eq_zero]
  constructor
  · exact fun h hmem => h _ hmem rfl
  · intro h e he
    cases e with
    | addHandler => exact absurd he h
    | obtain | setDetailed | configure => simp

namespace Loggers

variable {l : Loggers} {name : Name} {level : Level} {levels : List (Name × Level)}

lemma after_concat (l : Loggers) (events : List Event) (e : Event) :
    l.after (events ++ [e]) = (l.after events).on e := by
  rw [after, List.foldl_append]
  rfl

/-! ### Levels -/

/-- The names of the loggers that have been obtained. -/
def obtained (l : Loggers) : List Name := l.levels.map Prod.fst

/-- Gives a level to the loggers with some names. -/
def renew (names : List Name) (level : Level) (levels : List (Name × Level)) :
    List (Name × Level) :=
  levels.map fun p => (p.1, if p.1 ∈ names then level else p.2)

lemma renew_cons (names : List Name) (level : Level) (p : Name × Level)
    (rest : List (Name × Level)) : renew names level (p :: rest) =
      (p.1, if p.1 ∈ names then level else p.2) :: renew names level rest := rfl

lemma map_fst_renew (names : List Name) (level : Level) (levels : List (Name × Level)) :
    (renew names level levels).map Prod.fst = levels.map Prod.fst := by
  simp [renew, Function.comp_def]

lemma renew_renew (n : Name) (names : List Name) (level : Level)
    (levels : List (Name × Level)) :
    renew names level (renew [n] level levels) = renew (n :: names) level levels := by
  simp only [renew, List.map_map]
  refine List.map_congr_left fun p _ => ?_
  by_cases hp : p.1 = n <;> simp [hp]

lemma renew_eq_self {names : List Name} (h : ∀ p ∈ levels, p.1 ∉ names) :
    renew names level levels = levels := by
  have hsame : ∀ p ∈ levels, (p.1, if p.1 ∈ names then level else p.2) = id p :=
    fun p hp => by rw [if_neg (h p hp), id]
  rw [renew, List.map_congr_left hsame, List.map_id]

/-- A logger that has not been obtained comes after the others. -/
lemma setLevel_of_notMem (h : name ∉ levels.map Prod.fst) :
    setLevel levels name level = levels ++ [(name, level)] := by
  induction levels with
  | nil => rfl
  | cons p rest ih =>
    rw [List.map_cons, List.mem_cons, not_or] at h
    rw [setLevel, if_neg (Ne.symm h.1), ih h.2, List.cons_append]

/-- A logger that has been obtained keeps its place. -/
lemma setLevel_of_mem (hnd : (levels.map Prod.fst).Nodup) (h : name ∈ levels.map Prod.fst) :
    setLevel levels name level = renew [name] level levels := by
  induction levels with
  | nil => exact absurd h List.not_mem_nil
  | cons p rest ih =>
    rw [List.map_cons, List.nodup_cons] at hnd
    rw [List.map_cons, List.mem_cons] at h
    by_cases hp : p.1 = name
    · -- nothing after it has the name, so only the first place is set
      have hrest : renew [name] level rest = rest := renew_eq_self fun q hq => by
        rw [List.mem_singleton]
        rintro rfl
        exact hnd.1 (hp ▸ List.mem_map_of_mem hq)
      rw [setLevel, if_pos hp, renew_cons, hrest, if_pos (List.mem_singleton.mpr hp)]
    · rw [setLevel, if_neg hp, ih hnd.2 (h.resolve_left (Ne.symm hp)), renew_cons,
        if_neg (mt List.mem_singleton.mp hp)]

lemma obtain_of_mem (hnd : l.obtained.Nodup) (h : name ∈ l.obtained) :
    l.obtain name = { l with levels := renew [name] (wanted l.detailed) l.levels } := by
  rw [obtain, setLevel_of_mem hnd h]

/-- Obtaining a logger once more adds none. -/
lemma obtained_obtain_of_mem (hnd : l.obtained.Nodup) (h : name ∈ l.obtained) :
    (l.obtain name).obtained = l.obtained := by
  rw [obtain_of_mem hnd h]
  exact map_fst_renew _ _ _

lemma obtain_of_notMem (h : name ∉ l.obtained) :
    l.obtain name = { l with levels := l.levels ++ [(name, wanted l.detailed)] } := by
  rw [obtain, setLevel_of_notMem h]

/-- Loggers that are obtained once more change their levels only. -/
lemma foldl_obtain (hnd : l.obtained.Nodup) {names : List Name}
    (h : ∀ n ∈ names, n ∈ l.obtained) :
    names.foldl obtain l = { l with levels := renew names (wanted l.detailed) l.levels } := by
  induction names generalizing l with
  | nil => rw [List.foldl_nil, renew_eq_self (by simp)]
  | cons n rest ih =>
    rw [List.forall_mem_cons] at h
    have hsame := obtained_obtain_of_mem hnd h.1
    rw [List.foldl_cons, ih (hsame ▸ hnd) (hsame ▸ h.2), obtain_of_mem hnd h.1, renew_renew]

/-- The toggle reaches every logger in its turn, whatever the order. -/
lemma foldl_obtain_eq_setDetailed (hnd : l.obtained.Nodup) {names : List Name}
    (h : ∀ n, n ∈ names ↔ n ∈ l.obtained) (detailed : Bool) :
    names.foldl obtain { l with detailed } = l.setDetailed detailed := by
  have hall : renew names (wanted detailed) l.levels =
      l.levels.map fun p => (p.1, wanted detailed) :=
    List.map_congr_left fun p hp => by rw [if_pos ((h p.1).mpr (List.mem_map_of_mem hp))]
  have hfold := foldl_obtain (l := { l with detailed }) hnd fun n hn => (h n).mp hn
  rw [hfold, hall]
  rfl

lemma levelOf_of_mem (hlevels : ∀ p ∈ l.levels, p.2 = level) (h : name ∈ l.obtained) :
    l.levelOf name = level := by
  rw [levelOf]
  cases hlookup : l.levels.lookup name with
  | none =>
    obtain ⟨p, hp, rfl⟩ := List.mem_map.mp h
    exact absurd (List.lookup_eq_none_iff.mp hlookup p hp) (by simp)
  | some v =>
    obtain ⟨before, after, heq, -⟩ := List.lookup_eq_some_iff.mp hlookup
    exact hlevels (name, v) (heq ▸ List.mem_append_cons_self)

lemma levelOf_of_notMem (h : name ∉ l.obtained) : l.levelOf name = .notSet := by
  have hlookup : l.levels.lookup name = none := List.lookup_eq_none_iff.mpr fun p hp => by
    rw [bne_iff_ne]
    rintro rfl
    exact h (List.mem_map_of_mem hp)
  rw [levelOf, hlookup, Option.getD_none]

/-! ### The root -/

lemma configure_of_noHandler (h : l.handlers = []) :
    l.configure = { l with handlers := l.handlers ++ [.console], rootLevel := .debug } := by
  rw [configure, h, List.isEmpty_nil, if_pos rfl, List.nil_append]

lemma configure_of_handler (h : l.handlers ≠ []) : l.configure = l := by
  rw [configure, if_neg (by simpa using h)]

/-- Whether the root has been set up, and with what handlers. -/
structure RootFits (l : Loggers) (events : List Event) : Prop where
  setUp : IsSetUp events → l.rootLevel = .debug ∧
    l.handlers = .console :: List.replicate (additions events) .foreign
  bare : ¬ IsSetUp events → l.rootLevel = .warning ∧
    l.handlers = List.replicate (additions events) .foreign

/-- The first event that gives the root a handler is told by whether it has one. -/
lemma RootFits.handlers_eq_nil_iff (h : l.RootFits events) :
    l.handlers = [] ↔ ¬ IsSetUp events ∧ .addHandler ∉ events := by
  by_cases hset : IsSetUp events
  · simp [h.setUp hset, hset]
  · rw [(h.bare hset).2, List.replicate_eq_nil_iff, additions_eq_zero_iff]
    simp [hset]

lemma RootFits.count_console_le (h : l.RootFits events) : l.handlers.count .console ≤ 1 := by
  by_cases hset : IsSetUp events
  · simp [h.setUp hset, List.count_replicate]
  · simp [h.bare hset, List.count_replicate]

/-- The root has a handler once it was to be set up. -/
lemma RootFits.handlers_ne_nil (h : l.RootFits events) (hmem : .configure ∈ events) :
    l.handlers ≠ [] := by
  rw [Ne, h.handlers_eq_nil_iff]
  rintro ⟨hset, hno⟩
  obtain ⟨earlier, later, rfl⟩ := List.append_of_mem hmem
  refine hset ⟨earlier, ⟨later, by simp⟩, fun hearlier => ?_⟩
  exact hno (List.mem_append_left _ hearlier)

/-- An event at a logger or at the toggle leaves the root alone. -/
lemma RootFits.keep {l' : Loggers} (h : l.RootFits events) (hlevel : l'.rootLevel = l.rootLevel)
    (hhandlers : l'.handlers = l.handlers) (hset : IsSetUp (events ++ [e]) ↔ IsSetUp events)
    (hcount : additions (events ++ [e]) = additions events) : l'.RootFits (events ++ [e]) := by
  refine ⟨fun hnew => ?_, fun hnew => ?_⟩
  · rw [hlevel, hhandlers, hcount]
    exact h.setUp (hset.mp hnew)
  · rw [hlevel, hhandlers, hcount]
    exact h.bare (mt hset.mpr hnew)

lemma RootFits.addHandler (h : l.RootFits events) :
    l.addHandler.RootFits (events ++ [.addHandler]) := by
  have hset : IsSetUp (events ++ [.addHandler]) ↔ IsSetUp events := by simp [isSetUp_concat]
  have hcount : additions (events ++ [.addHandler]) = additions events + 1 :=
    additions_concat events .addHandler
  refine ⟨fun hnew => ⟨(h.setUp (hset.mp hnew)).1, ?_⟩,
    fun hnew => ⟨(h.bare (mt hset.mpr hnew)).1, ?_⟩⟩
  · rw [Loggers.addHandler, (h.setUp (hset.mp hnew)).2, hcount, List.replicate_succ']
    rfl
  · rw [Loggers.addHandler, (h.bare (mt hset.mpr hnew)).2, hcount, List.replicate_succ']

lemma RootFits.configure (h : l.RootFits events) :
    l.configure.RootFits (events ++ [.configure]) := by
  have hcount : additions (events ++ [.configure]) = additions events :=
    additions_concat events .configure
  by_cases hnil : l.handlers = []
  · -- nobody has added a handler, so this is the event that sets the root up
    have hno := (h.handlers_eq_nil_iff.mp hnil).2
    have hset : IsSetUp (events ++ [.configure]) := isSetUp_concat.mpr (.inr ⟨rfl, hno⟩)
    refine ⟨fun _ => ?_, absurd hset⟩
    rw [configure_of_noHandler hnil, hcount, additions_eq_zero_iff.mpr hno, hnil]
    exact ⟨rfl, rfl⟩
  · -- it comes too late, or once more
    rw [configure_of_handler hnil]
    refine h.keep rfl rfl ⟨fun hnew => ?_, fun hset => isSetUp_concat.mpr (.inl hset)⟩ hcount
    rw [h.handlers_eq_nil_iff] at hnil
    rcases isSetUp_concat.mp hnew with hset | ⟨-, hno⟩
    · exact hset
    · exact not_not.mp fun hset => hnil ⟨hset, hno⟩

lemma RootFits.on (h : l.RootFits events) (e : Event) : (l.on e).RootFits (events ++ [e]) := by
  cases e with
  | obtain name =>
    exact h.keep rfl rfl (by simp [isSetUp_concat]) (additions_concat events (.obtain name))
  | setDetailed detailed =>
    exact h.keep rfl rfl (by simp [isSetUp_concat])
      (additions_concat events (.setDetailed detailed))
  | addHandler => exact h.addHandler
  | configure => exact h.configure

lemma rootFits_after (events : List Event) : (begin.after events).RootFits events := by
  induction events using List.reverseRecOn with
  | nil => exact ⟨fun h => absurd h not_isSetUp_nil, fun _ => ⟨rfl, rfl⟩⟩
  | append_singleton events e ih =>
    rw [after_concat]
    exact ih.on e

/-! ### The toggle -/

/-- Those loggers have been obtained that were to be, and each is held once, at the level that the
toggle asks for. -/
structure Tracks (l : Loggers) (events : List Event) : Prop where
  toggle : l.detailed = true ↔ IsDetailed events
  obtained : ∀ name, name ∈ l.obtained ↔ .obtain name ∈ events
  apart : l.obtained.Nodup
  levels : ∀ p ∈ l.levels, p.2 = wanted l.detailed

lemma Tracks.obtain (h : l.Tracks events) (name : Name) :
    (l.obtain name).Tracks (events ++ [.obtain name]) := by
  have htoggle : IsDetailed (events ++ [.obtain name]) ↔ IsDetailed events := by
    simp [isDetailed_concat]
  by_cases hmem : name ∈ l.obtained
  · have hnames := obtained_obtain_of_mem h.apart hmem
    refine ⟨h.toggle.trans htoggle.symm, fun n => ?_, hnames ▸ h.apart, fun p hp => ?_⟩
    · have hold := (h.obtained name).mp hmem
      rw [hnames, h.obtained]
      simp only [List.mem_append, List.mem_singleton, Event.obtain.injEq]
      exact ⟨.inl, fun hn => hn.elim id fun hn => hn ▸ hold⟩
    · rw [obtain_of_mem h.apart hmem] at hp
      obtain ⟨q, hq, rfl⟩ := List.mem_map.mp hp
      dsimp only
      split
      · rfl
      · exact h.levels q hq
  · have hnames : (l.obtain name).obtained = l.obtained ++ [name] := by
      rw [obtain_of_notMem hmem]
      exact List.map_append
    refine ⟨h.toggle.trans htoggle.symm, fun n => ?_, ?_, fun p hp => ?_⟩
    · rw [hnames, List.mem_append, h.obtained]
      simp
    · rw [hnames]
      refine List.nodup_append.mpr ⟨h.apart, List.nodup_singleton name, fun a ha b hb => ?_⟩
      rw [List.mem_singleton.mp hb]
      exact ne_of_mem_of_not_mem ha hmem
    · rw [obtain_of_notMem hmem] at hp
      rcases List.mem_append.mp hp with hp | hp
      · exact h.levels p hp
      · rw [List.mem_singleton.mp hp]
        rfl

lemma Tracks.setDetailed (h : l.Tracks events) (detailed : Bool) :
    (l.setDetailed detailed).Tracks (events ++ [.setDetailed detailed]) := by
  have hnames : (l.setDetailed detailed).obtained = l.obtained := by
    simp [Loggers.obtained, Loggers.setDetailed, Function.comp_def]
  refine ⟨?_, fun n => ?_, hnames ▸ h.apart, fun p hp => ?_⟩
  · simp [isDetailed_concat, Loggers.setDetailed]
  · rw [hnames, h.obtained]
    simp
  · obtain ⟨q, -, rfl⟩ := List.mem_map.mp hp
    rfl

/-- An event at the root leaves the other loggers and the toggle alone. -/
lemma Tracks.keep {l' : Loggers} (h : l.Tracks events) (hdetailed : l'.detailed = l.detailed)
    (hlevels : l'.levels = l.levels) (he : e = .addHandler ∨ e = .configure) :
    l'.Tracks (events ++ [e]) := by
  have hobtained : l'.obtained = l.obtained := congrArg (List.map Prod.fst) hlevels
  refine ⟨?_, fun n => ?_, hobtained ▸ h.apart, ?_⟩
  · rw [hdetailed, h.toggle, isDetailed_concat]
    rcases he with rfl | rfl <;> simp
  · rw [hobtained, h.obtained]
    rcases he with rfl | rfl <;> simp
  · rw [hlevels, hdetailed]
    exact h.levels

lemma Tracks.on (h : l.Tracks events) (e : Event) : (l.on e).Tracks (events ++ [e]) := by
  cases e with
  | obtain name => exact h.obtain name
  | setDetailed detailed => exact h.setDetailed detailed
  | addHandler => exact h.keep rfl rfl (.inl rfl)
  | configure =>
    change l.configure.Tracks _
    by_cases hnil : l.handlers = []
    · rw [configure_of_noHandler hnil]
      exact h.keep rfl rfl (.inr rfl)
    · rw [configure_of_handler hnil]
      exact h.keep rfl rfl (.inr rfl)

lemma tracks_after (events : List Event) : (begin.after events).Tracks events := by
  induction events using List.reverseRecOn with
  | nil =>
    exact ⟨by simpa [begin, after] using not_isDetailed_nil, by simp [begin, after, obtained],
      List.nodup_nil, by simp [begin, after]⟩
  | append_singleton events e ih =>
    rw [after_concat]
    exact ih.on e

/-- The levels of all loggers: those that have been obtained have the one that the last toggle asks
for, and the others the one that they began with. -/
structure InStep (l : Loggers) (events : List Event) : Prop where
  debug : ∀ name, .obtain name ∈ events → IsDetailed events → l.levelOf name = .debug
  info : ∀ name, .obtain name ∈ events → ¬ IsDetailed events → l.levelOf name = .info
  untouched : ∀ name, .obtain name ∉ events → l.levelOf name = begin.levelOf name

lemma Tracks.inStep (h : l.Tracks events) : l.InStep events := by
  have hlevel (name : Name) (hname : .obtain name ∈ events) :
      l.levelOf name = wanted l.detailed :=
    levelOf_of_mem h.levels ((h.obtained name).mpr hname)
  refine ⟨fun name hname hdetailed => ?_, fun name hname hbrief => ?_, fun name hno => ?_⟩
  · rw [hlevel name hname, h.toggle.mpr hdetailed]
    rfl
  · rw [hlevel name hname, Bool.eq_false_iff.mpr (mt h.toggle.mp hbrief)]
    rfl
  · exact levelOf_of_notMem (mt (h.obtained name).mp hno)

/-! ### All events -/

/-- The names of three loggers below the root, and of one that is never obtained. -/
def core : Name := ⟨"core", by decide⟩

def report : Name := ⟨"report", by decide⟩

def scan : Name := ⟨"scan", by decide⟩

def quality : Name := ⟨"quality", by decide⟩

/-- Loggers are obtained before, between and after toggles. The root is set up before somebody else
adds a handler, and was to be set up once more after it. -/
def history : List Event :=
  [.obtain core, .setDetailed true, .obtain report, .configure, .setDetailed false, .addHandler,
    .setDetailed true, .obtain core, .configure, .obtain scan]

end Loggers

end LineAudit.Log
