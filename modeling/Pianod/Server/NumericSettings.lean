import Pianod.Football.NumberBlanks
import Pianod.Server.Enduring
import Pianod.Server.OwnerDispatch

/-!
# Settings that are numbers

The grammar converts a term to see whether it is a number in range, and the handler converts it once
more to store it.  The level of the volume is any term to the grammar; only its handler checks it.
-/

namespace Pianod

open Foundation Football

/-! ## Reading the terms -/

/-- The C library's `atoi`: what `strtol` reads, cut down to the size of an `int`. -/
def atoi (text : Text) : Int := Int.bmod (strtol text .decimal).1 (2 ^ 32)

/-- The command that sets a number, with the number that the handler stores; nothing for others.
The settings are natural numbers, and no negative one passes the grammar. -/
def numericCommand (argv : List Text) : MyCommand → Except Fault (Option Command)
  | .setVolume => (required argv 1).map fun level => some (.setVolume level)
  | .setHistorySize => (required argv 3).map fun length =>
      some (.setHistorySize (atoi length).toNat)
  | .setPauseTimeout => (required argv 3).map fun duration =>
      some (.setPauseTimeout (atoi duration).toNat)
  | .setPlaylistTimeout => (required argv 3).map fun duration =>
      some (.setPlaylistTimeout (atoi duration).toNat)
  | .setPandoraRetry => (required argv 3).map fun duration =>
      some (.setPandoraRetry (atoi duration).toNat)
  | _ => .ok none

/-- The commands that set a number. -/
def MyCommand.setsNumber : MyCommand → Bool
  | .setVolume | .setHistorySize | .setPauseTimeout | .setPlaylistTimeout | .setPandoraRetry => true
  | _ => false

def Command.setsNumber : Command → Bool
  | .setVolume _ | .setHistorySize _ | .setPauseTimeout _ | .setPlaylistTimeout _
  | .setPandoraRetry _ => true
  | _ => false

/-- If a command sets a number, it was read from terms that the parser accepts. -/
def Command.Read {doubles : Doubles} (features : Features) (parser : Parser doubles)
    (command : Command) : Prop :=
  command.setsNumber = true → ∃ argv name, (fbInterpret parser argv).1 = name.number features ∧
    numericCommand argv name = .ok (some command)

/-! ## What the numbers are meant to be -/

/-- The numbers are in their documented ranges. -/
structure Settings.InRange (settings : Settings) : Prop where
  historyLength : 1 ≤ settings.historyLength ∧ settings.historyLength ≤ 50
  pauseTimeout : 15 ≤ settings.pauseTimeout ∧ settings.pauseTimeout ≤ 86400
  playlistExpiration : 1800 ≤ settings.playlistExpiration ∧ settings.playlistExpiration ≤ 86400
  pandoraRetry : 5 ≤ settings.pandoraRetry ∧ settings.pandoraRetry ≤ 300
  volume : -100 ≤ settings.volume ∧ settings.volume ≤ 100

/-- The numbers that the settings are initialized with; the length of the history is in the initial
state of the loop. -/
structure Settings.Initialized (settings : Settings) : Prop where
  pauseTimeout : settings.pauseTimeout = 1800
  playlistExpiration : settings.playlistExpiration = 3600
  pandoraRetry : settings.pandoraRetry = 60
  volume : settings.volume = 0

/-- The number that a command sets. -/
def Settings.stored (settings : Settings) : MyCommand → Int
  | .setVolume => settings.volume
  | .setHistorySize => settings.historyLength
  | .setPauseTimeout => settings.pauseTimeout
  | .setPlaylistTimeout => settings.playlistExpiration
  | .setPandoraRetry => settings.pandoraRetry
  | _ => 0

/-- The volume that a level denotes: one step up or down, or a number, which may follow whitespace
and a plus sign. -/
def denotedVolume (volume : Int) (level : Text) : Option Int :=
  if Text.strcasecmp level (ascii "up") = .eq then some (volume + 1)
  else if Text.strcasecmp level (ascii "down") = .eq then some (volume - 1)
  else numberOf (skipLead level)

/-- The number that the argument of a command denotes. -/
def Settings.denoted (settings : Settings) (argv : List Text) : MyCommand → Option Int
  | .setVolume => argv[1]?.bind (denotedVolume settings.volume)
  | .setHistorySize | .setPauseTimeout | .setPlaylistTimeout | .setPandoraRetry =>
      argv[3]?.bind fun term => numberOf (skipLead term)
  | _ => none

/-! ## The patterns -/

/-- The settings whose ranges are in the grammar. -/
inductive RangedSetting where
  | historySize
  | pauseTimeout
  | playlistTimeout
  | pandoraRetry
deriving DecidableEq, Repr

namespace RangedSetting

def command : RangedSetting → MyCommand
  | .historySize => .setHistorySize
  | .pauseTimeout => .setPauseTimeout
  | .playlistTimeout => .setPlaylistTimeout
  | .pandoraRetry => .setPandoraRetry

def name : RangedSetting → Text
  | .historySize => ascii "length"
  | .pauseTimeout | .playlistTimeout | .pandoraRetry => ascii "duration"

def minimum : RangedSetting → Int
  | .historySize => 1
  | .pauseTimeout => 15
  | .playlistTimeout => 1800
  | .pandoraRetry => 5

def maximum : RangedSetting → Int
  | .historySize => 50
  | .pauseTimeout | .playlistTimeout => 86400
  | .pandoraRetry => 300

/-- The command that stores a number. -/
def stores : RangedSetting → Nat → Command
  | .historySize => .setHistorySize
  | .pauseTimeout => .setPauseTimeout
  | .playlistTimeout => .setPlaylistTimeout
  | .pandoraRetry => .setPandoraRetry

end RangedSetting

private theorem words_ranged : ∀ statement ∈ (allStatements ⟨true, true⟩).flatten,
    ∀ setting ∈ [RangedSetting.historySize, .pauseTimeout, .playlistTimeout, .pandoraRetry],
      statement.command = setting.command →
        (patternWords statement.pattern).length = 4 ∧
        (patternWords statement.pattern)[3]? =
          some (rangeBlank setting.name setting.minimum setting.maximum) ∧
        isOptionalBlank (rangeBlank setting.name setting.minimum setting.maximum) = false ∧
        isBlank (rangeBlank setting.name setting.minimum setting.maximum) = true ∧
        leastTerms (patternWords statement.pattern) = 4 ∧
        Fixed (patternWords statement.pattern) := by
  decide +kernel

private theorem words_volume : ∀ statement ∈ (allStatements ⟨true, true⟩).flatten,
    statement.command = .setVolume →
      leastTerms (patternWords statement.pattern) = 2 ∧ Fixed (patternWords statement.pattern) := by
  decide +kernel

private theorem RangedSetting.mem_all (setting : RangedSetting) :
    setting ∈ [RangedSetting.historySize, .pauseTimeout, .playlistTimeout, .pandoraRetry] := by
  cases setting <;> decide

/-- The ranges are within the limits of all the types. -/
theorem RangedSetting.bounds (setting : RangedSetting) :
    0 < setting.minimum ∧ setting.minimum < setting.maximum ∧ setting.maximum ≤ 86400 ∧
      58 ∉ setting.name ∧ 46 ∉ setting.name := by
  cases setting <;> decide

/-! ## Two conversions -/

theorem saturate_of_fits {number : Int} (fits : longMin ≤ number ∧ number ≤ longMax) :
    saturate number = number := by
  rw [saturate, min_eq_right fits.2, max_eq_right fits.1]

private theorem atoi_eq {term : Text} {number : Int}
    (spells : numberOf (skipLead term) = some number)
    (small : 0 ≤ number ∧ number ≤ 86400) : atoi term = number := by
  have limits : longMin ≤ 0 ∧ 86400 ≤ longMax := by decide
  rw [atoi, strtol_of_numberOf spells, saturate_of_fits ⟨by omega, by omega⟩]
  exact Int.bmod_eq_of_le (by omega) (by omega)

section

variable {doubles : Doubles} {features : Features} {parser : Parser doubles}

/-- A term that the grammar takes for a setting is a number in the setting's range, and the handler
reads the same number. -/
theorem RangedSetting.accepted (built : initParser doubles features = .ok parser)
    (setting : RangedSetting) {argv : List Text}
    (accepted : (fbInterpret parser argv).1 = setting.command.number features) :
    ∃ term number, argv[3]? = some term ∧ numberOf (skipLead term) = some number ∧
      setting.minimum ≤ number ∧ number ≤ setting.maximum ∧ atoi term = number := by
  obtain ⟨statement, listed, named, allowed⟩ :=
    (fbInterpret_number_iff built setting.command argv).mp accepted
  obtain ⟨-, last, needed, blank, least, fixed⟩ :=
    words_ranged statement (mem_allStatements listed) setting setting.mem_all named
  obtain ⟨enough, -, each⟩ := allowed.aligned fixed
  rw [least] at enough
  obtain ⟨positive, ordered, limit, colon, point⟩ := setting.bounds
  have limits : longMin < 0 ∧ 86400 < longMax := by decide
  have below : saturate setting.minimum < saturate setting.maximum := by
    rw [saturate_of_fits ⟨by omega, by omega⟩, saturate_of_fits ⟨by omega, by omega⟩]
    exact ordered
  have given := List.getElem?_eq_getElem (show 3 < argv.length by omega)
  have stands := each 3 _ _ last given
  rw [StandsFor, if_neg (by simp [needed]), if_pos blank] at stands
  obtain ⟨type, read, accepts⟩ := stands
  rw [blankType_rangeBlank doubles ⟨colon, point⟩ below (by omega)] at read
  cases read
  rcases (accepts_range_iff below _).mp accepts with ⟨-, zero, -⟩ | ⟨number, spells, lower, upper⟩
  · omega
  · have within : setting.minimum ≤ number ∧ number ≤ setting.maximum := by omega
    exact ⟨_, number, given, spells, within.1, within.2, atoi_eq spells (by omega)⟩

/-- The handler stores the number that was accepted. -/
theorem RangedSetting.numericCommand_eq (built : initParser doubles features = .ok parser)
    (setting : RangedSetting) {argv : List Text}
    (accepted : (fbInterpret parser argv).1 = setting.command.number features) :
    ∃ (term : Text) (number : Nat), argv[3]? = some term ∧
      numberOf (skipLead term) = some (number : Int) ∧
      setting.minimum ≤ number ∧ number ≤ setting.maximum ∧
      numericCommand argv setting.command = .ok (some (setting.stores number)) := by
  obtain ⟨term, number, given, spells, lower, upper, reads⟩ := setting.accepted built accepted
  have positive := setting.bounds.1
  obtain ⟨magnitude, rfl⟩ := Int.eq_ofNat_of_zero_le (show 0 ≤ number by omega)
  refine ⟨term, magnitude, given, spells, lower, upper, ?_⟩
  have stored : (atoi term).toNat = magnitude := by rw [reads, Int.toNat_natCast]
  cases setting <;>
    simp [numericCommand, command, stores, required, given, Except.map, stored]

private theorem level_given (built : initParser doubles features = .ok parser) {argv : List Text}
    (accepted : (fbInterpret parser argv).1 = MyCommand.setVolume.number features) :
    ∃ level, argv[1]? = some level ∧
      numericCommand argv .setVolume = .ok (some (.setVolume level)) := by
  obtain ⟨statement, listed, named, allowed⟩ :=
    (fbInterpret_number_iff built .setVolume argv).mp accepted
  obtain ⟨least, fixed⟩ := words_volume statement (mem_allStatements listed) named
  obtain ⟨enough, -, -⟩ := allowed.aligned fixed
  rw [least] at enough
  have given := List.getElem?_eq_getElem (show 1 < argv.length by omega)
  exact ⟨_, given, by simp [numericCommand, required, given, Except.map]⟩

end

/-! ## The volume -/

private theorem saturate_inj_of_small {number other : Int} (same : saturate other = number)
    (small : -100 ≤ number ∧ number ≤ 100) : other = number := by
  have limits : longMin < -100 ∧ 100 < longMax := by decide
  rw [saturate_eq] at same
  split_ifs at same <;> omega

/-- A volume that is set is the one that the level denotes, or the level is empty. -/
theorem newVolume_denoted {volume : Int} {level : Text} {set : Int}
    (taken : Server.newVolume volume level = some set) :
    denotedVolume volume level = some set ∨ level = [] := by
  unfold Server.newVolume at taken
  unfold denotedVolume
  by_cases up : Text.strcasecmp level (ascii "up") = .eq
  · rw [if_pos up] at taken ⊢
    split at taken <;> cases taken
    exact .inl rfl
  by_cases down : Text.strcasecmp level (ascii "down") = .eq
  · rw [if_neg up, if_pos down] at taken ⊢
    split at taken <;> cases taken
    exact .inl rfl
  rw [if_neg up, if_neg down] at taken ⊢
  split at taken
  · rename_i number read
    rcases numberOf_of_strtol (congrArg Prod.snd read) with nothing | ⟨other, spells⟩
    · exact .inr nothing
    · refine .inl ?_
      rw [strtol_of_numberOf spells] at read
      have same : saturate other = number := congrArg Prod.fst read
      split at taken
      · cases taken
      · cases taken
        rw [spells, saturate_inj_of_small same (by omega)]
  · cases taken

private theorem denotedVolume_nil (volume : Int) :
    denotedVolume volume [] = none ∧ Server.newVolume volume [] = some 0 :=
  ⟨rfl, rfl⟩

private theorem newVolume_bounds {volume : Int} {level : Text} {set : Int}
    (taken : Server.newVolume volume level = some set) (before : -100 ≤ volume ∧ volume ≤ 100) :
    -100 ≤ set ∧ set ≤ 100 := by
  unfold Server.newVolume at taken
  split at taken
  · split at taken <;> cases taken
    omega
  · split at taken
    · split at taken <;> cases taken
      omega
    · split at taken
      · split at taken <;> cases taken
        omega
      · cases taken

/-! ## Ranges in every state reached -/

private theorem Settings.InRange.of_numbers {before after : Settings} (inRange : before.InRange)
    (same : after.numbers = before.numbers) : after.InRange := by
  simp only [Settings.numbers, Prod.mk.injEq] at same
  obtain ⟨volume, history, pause, playlist, retry, -⟩ := same
  exact ⟨by rw [history]; exact inRange.historyLength, by rw [pause]; exact inRange.pauseTimeout,
    by rw [playlist]; exact inRange.playlistExpiration, by rw [retry]; exact inRange.pandoraRetry,
    by rw [volume]; exact inRange.volume⟩

section

variable {doubles : Doubles} {features : Features} {parser : Parser doubles}

private theorem RangedSetting.named_of_stores {setting : RangedSetting} {number : Nat}
    {argv : List Text} {name : MyCommand}
    (reads : numericCommand argv name = .ok (some (setting.stores number))) :
    name = setting.command := by
  unfold numericCommand at reads
  split at reads
  case h_6 => cases reads
  all_goals
    obtain ⟨term, -, same⟩ := FallibleRun.map_ok_iff.mp reads
    cases setting <;> first | rfl | cases same

/-- A command that was read and stores a number has one in its range. -/
theorem Command.Read.bounds (built : initParser doubles features = .ok parser)
    (setting : RangedSetting) {number : Nat} (read : (setting.stores number).Read features parser) :
    setting.minimum ≤ number ∧ (number : Int) ≤ setting.maximum := by
  obtain ⟨argv, name, accepted, reads⟩ := read (by cases setting <;> rfl)
  have named := setting.named_of_stores reads
  subst named
  obtain ⟨-, other, -, -, lower, upper, same⟩ := setting.numericCommand_eq built accepted
  rw [same] at reads
  have stored : other = number := by
    cases setting <;> simpa [RangedSetting.stores] using reads
  rw [← stored]
  exact ⟨lower, upper⟩

/-- Commands that were read keep the numbers in their ranges. -/
theorem enduring_inRange (built : initParser doubles features = .ok parser) :
    Enduring (Command.Read features parser) fun app => app.settings.InRange where
  frame inRange _ numbers := inRange.of_numbers numbers
  users _ := id
  adjusts {app command settings} read given inRange := by
    cases command with
    | setVolume level =>
        obtain ⟨volume, taken, rfl⟩ := given
        exact { inRange with volume := newVolume_bounds taken inRange.volume }
    | setHistorySize length =>
        cases given
        have bounds : 1 ≤ length ∧ length ≤ 50 := by
          have read : (1 : Int) ≤ length ∧ (length : Int) ≤ 50 :=
            Command.Read.bounds built .historySize read
          exact_mod_cast read
        exact { inRange with historyLength := bounds }
    | setPauseTimeout duration =>
        cases given
        have bounds : 15 ≤ duration ∧ duration ≤ 86400 := by
          have read : (15 : Int) ≤ duration ∧ (duration : Int) ≤ 86400 :=
            Command.Read.bounds built .pauseTimeout read
          exact_mod_cast read
        exact { inRange with pauseTimeout := bounds }
    | setPlaylistTimeout duration =>
        cases given
        have bounds : 1800 ≤ duration ∧ duration ≤ 86400 := by
          have read : (1800 : Int) ≤ duration ∧ (duration : Int) ≤ 86400 :=
            Command.Read.bounds built .playlistTimeout read
          exact_mod_cast read
        exact { inRange with playlistExpiration := bounds }
    | setPandoraRetry duration =>
        cases given
        have bounds : 5 ≤ duration ∧ duration ≤ 300 := by
          have read : (5 : Int) ≤ duration ∧ (duration : Int) ≤ 300 :=
            Command.Read.bounds built .pandoraRetry read
          exact_mod_cast read
        exact { inRange with pandoraRetry := bounds }
    | autotuneSetMode mode =>
        cases given
        exact { inRange with }
    | _ => exact given.elim

end

/-! ## Accepted commands -/

section

variable {world : World} {crypt : Text → Text → Text} {session : Nat} {app : Application}
  {after : Server}

/-- Nothing is accepted by an answer other than success. -/
theorem not_accepted {code : ResponseCode} (other : code ≠ .sOk)
    (answers : (.ok ((⟨app, []⟩ : Server).reply session code) : Except Fault Server) = .ok after) :
    ⟨.connection session, .sOk⟩ ∉ after.sent := by
  cases answers
  intro told
  cases List.mem_singleton.mp told
  exact other rfl

/-- An administrator's command that is accepted was executed. -/
theorem executeAdministrator_of_accepted {command : Command}
    (unprivileged :
      (⟨app, []⟩ : Server).executeUnprivileged world crypt session command = none)
    (plain : command.inOwnerRange = false)
    (listener : (⟨app, []⟩ : Server).executeListener world crypt session command = none)
    (standard : (⟨app, []⟩ : Server).executeStandard world session command = none)
    (executed : (⟨app, []⟩ : Server).execute world crypt session (.plain command) = .ok after)
    (told : ⟨.connection session, .sOk⟩ ∈ after.sent) :
    (⟨app, []⟩ : Server).executeAdministrator world session command = .ok after := by
  simp only [Server.execute, Server.executePlain, unprivileged, plain, listener,
    standard] at executed
  split at executed
  · exact absurd told (not_accepted (by decide) executed)
  · simp only [Bool.false_eq_true, if_false] at executed
    split at executed
    · exact absurd told (not_accepted (by decide) executed)
    · split at executed
      · exact absurd told (not_accepted (by decide) executed)
      · exact executed

private theorem RangedSetting.stored_of_accepted (setting : RangedSetting) {number : Nat}
    (executed : (⟨app, []⟩ : Server).execute world crypt session (.plain (setting.stores number)) =
      .ok after)
    (told : ⟨.connection session, .sOk⟩ ∈ after.sent) :
    after.app.settings.stored setting.command = number := by
  cases setting
  all_goals
    have done := executeAdministrator_of_accepted rfl rfl rfl rfl executed told
    cases done
    rfl

/-- A level that is accepted makes a new volume. -/
theorem newVolume_of_accepted {level : Text}
    (executed : (⟨app, []⟩ : Server).execute world crypt session (.plain (.setVolume level)) =
      .ok after)
    (told : ⟨.connection session, .sOk⟩ ∈ after.sent) :
    Server.newVolume app.settings.volume level = some after.app.settings.volume := by
  simp only [Server.execute, Server.executePlain, Server.executeUnprivileged,
    Server.executeListener, Server.executeStandard, Command.inOwnerRange] at executed
  split at executed
  · exact absurd told (not_accepted (by decide) executed)
  · simp only [Bool.false_eq_true, if_false] at executed
    split at executed
    · exact absurd told (not_accepted (by decide) executed)
    · rw [Server.setVolume_eq] at executed
      cases taken : Server.newVolume app.settings.volume level with
      | none =>
          simp only [taken] at executed
          exact absurd told (not_accepted (by decide) executed)
      | some volume =>
          simp only [taken] at executed
          cases executed
          rfl

end

/-- Whatever is commanded, the numbers stay in their ranges, and an accepted command stores just the
number that its argument denotes unless it sets the volume to an empty level. -/
theorem numericSettings_exact_iff {doubles : Doubles} {features : Features}
    {parser : Parser doubles} (built : initParser doubles features = .ok parser)
    (crypt : Text → Text → Text) :
    (∀ (app : Application) (startscript : Bool) (actions : List PollAction) (polled : PolledLoop),
      app.settings.Initialized →
      (∀ action ∈ actions, action.All (Command.Read features parser)) →
      FallibleRun.run (PolledLoop.step crypt) (PolledLoop.initial app startscript) actions =
        .ok polled →
      polled.loop.app.settings.InRange) ∧
    ∀ (name : MyCommand) (argv : List Text), name.setsNumber = true →
      (fbInterpret parser argv).1 = name.number features →
      ∃ command, numericCommand argv name = .ok (some command) ∧
        ∀ (world : World) (session : Nat) (app : Application) (after : Server),
          (⟨app, []⟩ : Server).execute world crypt session (.plain command) = .ok after →
          ⟨.connection session, .sOk⟩ ∈ after.sent →
          (app.settings.denoted argv name = some (after.app.settings.stored name) ↔
            ¬(name = .setVolume ∧ argv[1]? = some [])) := by
  constructor
  · intro app startscript actions polled initialized read arrives
    refine (enduring_inRange built).run read arrives ((enduring_inRange built).initial ?_)
    obtain ⟨pause, playlist, retry, volume⟩ := initialized
    exact ⟨by simp, by simp [pause], by simp [playlist], by simp [retry], by simp [volume]⟩
  · intro name argv numeric accepted
    have ranged (setting : RangedSetting) (same : name = setting.command) :
        ∃ command, numericCommand argv name = .ok (some command) ∧
          ∀ (world : World) (session : Nat) (app : Application) (after : Server),
            (⟨app, []⟩ : Server).execute world crypt session (.plain command) = .ok after →
            ⟨.connection session, .sOk⟩ ∈ after.sent →
            (app.settings.denoted argv name = some (after.app.settings.stored name) ↔
              ¬(name = .setVolume ∧ argv[1]? = some [])) := by
      subst same
      obtain ⟨term, number, given, spells, -, -, reads⟩ :=
        setting.numericCommand_eq built accepted
      refine ⟨_, reads, fun world session app after executed told => iff_of_true ?_ ?_⟩
      · rw [setting.stored_of_accepted executed told]
        cases setting <;> simp [Settings.denoted, RangedSetting.command, given, spells]
      · rintro ⟨volume, -⟩
        cases setting <;> cases volume
    cases name with
    | setHistorySize => exact ranged .historySize rfl
    | setPauseTimeout => exact ranged .pauseTimeout rfl
    | setPlaylistTimeout => exact ranged .playlistTimeout rfl
    | setPandoraRetry => exact ranged .pandoraRetry rfl
    | setVolume =>
        obtain ⟨level, given, reads⟩ := level_given built accepted
        refine ⟨_, reads, fun world session app after executed told => ?_⟩
        have taken := newVolume_of_accepted executed told
        simp only [Settings.denoted, Settings.stored, given, Option.bind_some, true_and,
          Option.some.injEq]
        by_cases nothing : level = []
        · subst nothing
          exact iff_of_false (by simp [denotedVolume_nil]) (not_not.mpr rfl)
        · exact iff_of_true ((newVolume_denoted taken).resolve_right nothing) nothing
    | _ => cases numeric

/-! ## Two settings -/

/-- An administrator with a password. -/
def sampleAdministrator : Application :=
  let app := sampleApplication .administrator
  { app with users := { app.users with
      userList := app.users.userList.map fun user => { user with password := ascii "./xyz" } } }

def setLength : List Text := [ascii "set", ascii "history", ascii "length", ascii "7"]

def emptyVolume : List Text := [ascii "volume", []]

private theorem statement_setLength : ∃ statement ∈ (allStatements ⟨false, false⟩).flatten,
    statement.command = .setHistorySize ∧
      Matches noDoubles (patternWords statement.pattern) setLength := by
  decide +kernel

private theorem statement_emptyVolume : ∃ statement ∈ (allStatements ⟨false, false⟩).flatten,
    statement.command = .setVolume ∧
      Matches noDoubles (patternWords statement.pattern) emptyVolume := by
  decide +kernel

/-- Somebody connects and sets the length of the history on behalf of the administrator. -/
def sampleSetLength : List PollAction :=
  sampleConnects ++ [.read (sampleLoopWorld none) 0 false
    (.line (.asUser (ascii "ann") (ascii "secret") false (.plain (.setHistorySize 7)))
      ⟨by decide, by decide⟩)]

theorem numericSettings_exact_iff_setLength : ∃ parser polled after,
    initParser noDoubles ⟨false, false⟩ = .ok parser ∧
    (fbInterpret parser setLength).1 = MyCommand.setHistorySize.number ⟨false, false⟩ ∧
    (FallibleRun.run (PolledLoop.step fun _ salt => salt) (.initial sampleAdministrator false)
        sampleSetLength = .ok polled ∧
      polled.loop.app.settings.historyLength = 7 ∧ polled.loop.app.settings.InRange) ∧
    (⟨sampleAdministrator, []⟩ : Server).execute (sampleWorld []) (fun _ salt => salt) 0
        (.plain (.setHistorySize 7)) = .ok after ∧
      (sampleAdministrator.settings.denoted setLength .setHistorySize =
          some (after.app.settings.stored .setHistorySize) ↔
        ¬(MyCommand.setHistorySize = .setVolume ∧ setLength[1]? = some [])) := by
  obtain ⟨parser, built, -⟩ := initParser_recognises noDoubles ⟨false, false⟩
  have accepted := (fbInterpret_number_iff built .setHistorySize setLength).mpr statement_setLength
  obtain ⟨ranges, stores⟩ := numericSettings_exact_iff built fun _ salt => salt
  refine ⟨parser, _, _, built, accepted, ⟨rfl, rfl, ?_⟩, rfl, ?_⟩
  · refine ranges sampleAdministrator false sampleSetLength _ ⟨rfl, rfl, rfl, rfl⟩ ?_ rfl
    intro action member
    rcases List.mem_append.mp member with connects | sets
    · rcases List.mem_append.mp connects with connects | selects
      · rcases List.mem_append.mp connects with connects | waits
        · rw [List.eq_of_mem_replicate connects]
          trivial
        · rw [List.eq_of_mem_replicate waits]
          trivial
      · rw [List.mem_singleton.mp selects]
        trivial
    · rw [List.mem_singleton.mp sets]
      exact fun _ => ⟨setLength, .setHistorySize, accepted, rfl⟩
  · obtain ⟨command, reads, exactly⟩ := stores .setHistorySize setLength rfl accepted
    cases reads
    exact exactly (sampleWorld []) 0 sampleAdministrator _ rfl (by decide)

/-- An empty level is accepted as a volume of zero, though it denotes no number. -/
theorem numericSettings_emptyVolume : ∃ parser after,
    initParser noDoubles ⟨false, false⟩ = .ok parser ∧
    (fbInterpret parser emptyVolume).1 = MyCommand.setVolume.number ⟨false, false⟩ ∧
    numericCommand emptyVolume .setVolume = .ok (some (.setVolume [])) ∧
    (⟨sampleAdministrator, []⟩ : Server).execute (sampleWorld []) (fun _ salt => salt) 0
        (.plain (.setVolume [])) = .ok after ∧
      ⟨.connection 0, .sOk⟩ ∈ after.sent ∧ after.app.settings.volume = 0 ∧
      sampleAdministrator.settings.denoted emptyVolume .setVolume = none := by
  obtain ⟨parser, built, -⟩ := initParser_recognises noDoubles ⟨false, false⟩
  have accepted := (fbInterpret_number_iff built .setVolume emptyVolume).mpr statement_emptyVolume
  exact ⟨parser, _, built, accepted, rfl, rfl, by decide, rfl, rfl⟩

end Pianod
