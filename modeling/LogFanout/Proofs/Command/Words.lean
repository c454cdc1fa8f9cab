import LogFanout.Proofs.Command.Settings
import LogFanout.Proofs.Text.Cut

/-!
# The words of a message

What may stand in front of a message is written down as a grammar: letters of options behind one
dash (`Cluster`), words that are options (`OptionWord`), and rows of such words, some with a value in
the word behind them (`Options`). Behind a row of options the first plain word ends the options for
good: it and whatever follows is the message (`parse_verbatim`), whatever the environment stands in
for besides.
-/

namespace LogFanout.Command

/-- The long name of an option. -/
def Flag.name : Flag → String
  | .verbose => "verbose"
  | .quiet => "quiet"
  | .logFormat => "log-format"
  | .metricsPort => "metrics-port"
  | .help => "help"
  | .version => "version"
  | .config => "config"
  | .tag => "tag"
  | .level => "level"
  | .stats => "stats"
  | .json => "json"

/-- The letter of an option that has one. -/
def Flag.letter? : Flag → Option Char
  | .verbose => some 'v'
  | .quiet => some 'q'
  | .help => some 'h'
  | .version => some 'V'
  | .config => some 'c'
  | .tag => some 't'
  | .level => some 'l'
  | .logFormat | .metricsPort | .stats | .json => none

/-- Letters of options behind one dash, what they set, and an option that they leave without its
value. -/
inductive Cluster : List Char → List Setting → Option Flag → Prop where
  | nil :
    Cluster [] [] none
  | switch {c cs setting made awaits} :
    setting.flag.letter? = some c →
    setting.Takes none →
    Cluster cs made awaits →
    Cluster (c :: cs) (setting :: made) awaits
  | equals {c setting text} :
    setting.flag.letter? = some c →
    setting.Takes (some text) →
    Cluster (c :: '=' :: text.toList) [setting] none
  | attached {c d cs setting} :
    setting.flag.letter? = some c →
    d ≠ '=' →
    setting.Takes (some (String.ofList (d :: cs))) →
    Cluster (c :: d :: cs) [setting] none
  | awaiting {c flag} :
    flag.letter? = some c →
    flag.takesValue = true →
    Cluster [c] [] (some flag)

/-- A word that is an option, or several, what it sets, and an option that it leaves without its
value. -/
inductive OptionWord : String → List Setting → Option Flag → Prop where
  | switch {setting} :
    setting.Takes none →
    OptionWord ("--" ++ setting.flag.name) [setting] none
  | equals {setting text} :
    setting.Takes (some text) →
    OptionWord ("--" ++ setting.flag.name ++ "=" ++ text) [setting] none
  | awaiting {flag} :
    flag.takesValue = true →
    OptionWord ("--" ++ flag.name) [] (some flag)
  | letters {cs made awaits} :
    cs ≠ [] →
    Cluster cs made awaits →
    OptionWord ("-" ++ String.ofList cs) made awaits

/-- A word that is not spelled like an option. -/
def PlainWord (word : String) : Prop :=
  word = "-" ∨ ∀ rest, word.toList ≠ '-' :: rest

/-- Options and what they set; a value may stand in the word behind its option. -/
inductive Options : List String → List Setting → Prop where
  | nil :
    Options [] []
  | word {word made words rest} :
    OptionWord word made none →
    Options words rest →
    Options (word :: words) (made ++ rest)
  | apart {word made setting text words rest} :
    OptionWord word made (some setting.flag) →
    setting.Takes (some text) →
    PlainWord text →
    Options words rest →
    Options (word :: text :: words) (made ++ setting :: rest)

variable {settings : List Setting} {setting : Setting} {text : String}

/-- What has been read of a side: settings, and an option that waits for its value. -/
inductive Scan.Holds : Scan → List Setting → Option Flag → Prop where
  | read {settings : List Setting} :
    Holds ⟨.ofSettings settings, none⟩ settings none
  | reached {settings : List Setting} {setting : Setting} {text : String} :
    setting.Takes (some text) →
    ConflictFree (settings ++ [setting]) →
    Holds ⟨.ofSettings settings, some (setting.flag, some text)⟩ (settings ++ [setting]) none
  | awaiting {settings : List Setting} {flag : Flag} :
    Holds ⟨.ofSettings settings, some (flag, none)⟩ settings (some flag)

lemma Scan.Holds.start : Scan.start.Holds [] none := by
  rw [Scan.start, ← Given.ofSettings_nil]
  exact .read

section Scan

variable {scan : Scan}

lemma Scan.Holds.settle (holds : scan.Holds settings none) :
    scan.settle = .ok (.ofSettings settings) := by
  cases holds with
  | read => rfl
  | reached takes free => exact Given.assign_ofSettings takes free

lemma Scan.Holds.awaits {awaits : Option Flag} (holds : scan.Holds settings awaits) :
    scan.awaiting = awaits := by
  cases holds <;> rfl

lemma Scan.Holds.turnOn (holds : scan.Holds settings none) (takes : setting.Takes none)
    (free : ConflictFree (settings ++ [setting])) :
    scan.turnOn setting.flag = .ok ⟨.ofSettings (settings ++ [setting]), none⟩ := by
  simp only [Scan.turnOn, holds.settle, Given.turnOn_ofSettings takes free, bind, Except.bind]
  rfl

lemma Scan.Holds.assign (holds : scan.Holds settings none) (takes : setting.Takes (some text))
    (free : ConflictFree (settings ++ [setting])) :
    scan.assign setting.flag text = .ok ⟨.ofSettings (settings ++ [setting]), none⟩ := by
  simp only [Scan.assign, holds.settle, Given.assign_ofSettings takes free, bind, Except.bind]
  rfl

lemma Scan.Holds.await (holds : scan.Holds settings none) (flag : Flag) :
    scan.await flag = .ok ⟨.ofSettings settings, some (flag, none)⟩ := by
  rw [Scan.await, holds.settle]
  rfl

end Scan

section Names

lemma Flag.ofName?_name (flag : Flag) : Flag.ofName? flag.name = some flag := by
  cases flag <;> rfl

lemma Flag.ofLetter?_letter {flag : Flag} {c : Char} (letter : flag.letter? = some c) :
    Flag.ofLetter? c = some flag := by
  cases flag <;> cases letter <;> rfl

lemma Setting.known (setting : Setting) : Side.emit.knows setting.flag = true := by
  cases setting <;> rfl

lemma Setting.Takes.switch (takes : setting.Takes none) : setting.flag.takesValue = false := by
  cases takes <;> rfl

lemma Setting.Takes.valued (takes : setting.Takes (some text)) :
    setting.flag.takesValue = true := by
  cases takes <;> rfl

lemma Flag.known_of_takesValue {flag : Flag} (valued : flag.takesValue = true) :
    Side.emit.knows flag = true := by
  cases flag <;> first | rfl | cases valued

lemma Side.named?_emit {flag : Flag} (known : Side.emit.knows flag = true) :
    Side.emit.named? flag.name = some flag := by
  rw [Side.named?, Flag.ofName?_name, Option.filter_some, if_pos known]

lemma Side.lettered?_emit {flag : Flag} {c : Char} (letter : flag.letter? = some c)
    (known : Side.emit.knows flag = true) : Side.emit.lettered? c = some flag := by
  rw [Side.lettered?, Flag.ofLetter?_letter letter, Option.filter_some, if_pos known]

end Names

section Words

variable {scan : Scan} {made : List Setting} {awaits : Option Flag} {cs : List Char}

/-- The letters of options are read in turn. -/
lemma Cluster.reads (cluster : Cluster cs made awaits) (holds : scan.Holds settings none)
    (free : ConflictFree (settings ++ made)) :
    ∃ scan', scan.readShort .emit cs = .ok scan' ∧ scan'.Holds (settings ++ made) awaits := by
  induction cluster generalizing scan settings with
  | nil =>
    rw [List.append_nil]
    exact ⟨scan, rfl, holds⟩
  | @switch c cs setting made awaits letter takes _ ih =>
    rw [List.append_cons] at free ⊢
    rw [Scan.readShort, Side.lettered?_emit letter setting.known]
    simp only [takes.switch, Bool.false_eq_true, if_false, holds.turnOn takes free.left]
    exact ih .read free
  | equals letter takes =>
    rw [Scan.readShort, Side.lettered?_emit letter (Setting.known _)]
    simp only [takes.valued, if_true, String.ofList_toList, holds.assign takes free]
    exact ⟨_, rfl, .read⟩
  | @attached c d cs setting letter other takes =>
    rw [Scan.readShort, Side.lettered?_emit letter setting.known]
    simp only [takes.valued, if_true]
    split
    · next eq => cases eq
    · next eq => exact absurd (List.cons.inj eq).1 other
    · rw [holds.assign takes free]
      exact ⟨_, rfl, .read⟩
  | awaiting letter valued =>
    rw [Scan.readShort, Side.lettered?_emit letter (Flag.known_of_takesValue valued)]
    simp only [valued, if_true, holds.await, List.append_nil]
    exact ⟨_, rfl, .awaiting⟩

lemma Flag.name_ne_nil (flag : Flag) : flag.name.toList ≠ [] := by
  cases flag <;> decide

lemma Flag.cutFirst_name (flag : Flag) : Text.cutFirst ['='] flag.name.toList = none := by
  cases flag <;> rfl

lemma Flag.cutFirst_name_equals (flag : Flag) (rest : List Char) :
    Text.cutFirst ['='] (flag.name.toList ++ '=' :: rest) = some (flag.name.toList, rest) := by
  cases flag <;> rfl

/-- Two dashes and something behind them make a long option. -/
lemma Word.of_long {word : String} (long : word.toList = '-' :: '-' :: cs) (more : cs ≠ []) :
    Word.of word =
      match Text.cutFirst ['='] cs with
      | some (name, value) => .long (String.ofList name) (some (String.ofList value))
      | none => .long (String.ofList cs) none := by
  obtain ⟨c, rest, rfl⟩ := List.exists_cons_of_ne_nil more
  rw [Word.of, long]
  rfl

lemma Word.of_name (flag : Flag) : Word.of ("--" ++ flag.name) = .long flag.name none := by
  have long : ("--" ++ flag.name).toList = '-' :: '-' :: flag.name.toList := by
    rw [String.toList_append]
    rfl
  rw [Word.of_long long flag.name_ne_nil, flag.cutFirst_name, String.ofList_toList]

lemma Word.of_name_equals (flag : Flag) (text : String) :
    Word.of ("--" ++ flag.name ++ "=" ++ text) = .long flag.name (some text) := by
  have long : ("--" ++ flag.name ++ "=" ++ text).toList =
      '-' :: '-' :: (flag.name.toList ++ '=' :: text.toList) := by
    rw [String.toList_append, String.toList_append, String.toList_append, List.append_assoc]
    rfl
  rw [Word.of_long long (List.append_ne_nil_of_left_ne_nil flag.name_ne_nil _),
    flag.cutFirst_name_equals]
  simp only [String.ofList_toList]

lemma Flag.letter?_ne_dash {flag : Flag} {c : Char} (letter : flag.letter? = some c) : c ≠ '-' := by
  cases flag <;> cases letter <;> decide

/-- Options behind one dash begin with a letter. -/
lemma Cluster.head (cluster : Cluster cs made awaits) (more : cs ≠ []) :
    ∃ c rest, cs = c :: rest ∧ c ≠ '-' := by
  cases cluster with
  | nil => exact absurd rfl more
  | switch letter | equals letter | attached letter | awaiting letter =>
    exact ⟨_, _, rfl, Flag.letter?_ne_dash letter⟩

lemma Word.of_letters (cluster : Cluster cs made awaits) (more : cs ≠ []) :
    Word.of ("-" ++ String.ofList cs) = .short cs := by
  obtain ⟨c, rest, rfl, letter⟩ := cluster.head more
  have short : ("-" ++ String.ofList (c :: rest)).toList = '-' :: c :: rest := by
    rw [String.toList_append]
    exact congrArg ('-' :: ·) String.toList_ofList
  rw [Word.of, short]
  split
  · next eq =>
    cases eq
    exact absurd rfl letter
  · next eq =>
    cases eq
    exact absurd rfl letter
  · next eq =>
    cases eq
    rfl
  · next other => exact absurd rfl (other c rest)

lemma PlainWord.of_eq {word : String} (plain : PlainWord word) : Word.of word = .plain := by
  rcases plain with rfl | plain
  · rfl
  · rw [Word.of]
    split
    · next eq => exact absurd eq (plain _)
    · next eq => exact absurd eq (plain _)
    · next eq => exact absurd eq (plain _)
    · rfl

/-- A long option is passed over once it has been read. -/
lemma readTail_long {word name : String} {value : Option String} {scan' : Scan}
    (long : Word.of word = .long name value) (read : scan.readLong .emit name value = .ok scan')
    (words : List String) :
    readTail .emit false scan (word :: words) = readTail .emit false scan' words := by
  rw [readTail]
  simp only [Bool.false_eq_true, if_false, long, Scan.readOption, read]
  rfl

/-- Letters of options are passed over once they have been read. -/
lemma readTail_short {word : String} {scan' : Scan} (short : Word.of word = .short cs)
    (read : scan.readShort .emit cs = .ok scan') (words : List String) :
    readTail .emit false scan (word :: words) = readTail .emit false scan' words := by
  rw [readTail]
  simp only [Bool.false_eq_true, if_false, short, Scan.readOption, read]
  rfl

/-- An option is read, and it has no say in what is read behind it. -/
lemma OptionWord.reads {word : String} (option : OptionWord word made awaits)
    (holds : scan.Holds settings none) (free : ConflictFree (settings ++ made)) :
    ∃ scan', scan'.Holds (settings ++ made) awaits ∧
      ∀ words, readTail .emit false scan (word :: words) = readTail .emit false scan' words := by
  cases option with
  | @switch setting takes =>
    refine ⟨_, .read, readTail_long (Word.of_name _) ?_⟩
    rw [Scan.readLong, Side.named?_emit setting.known]
    simp only [takes.switch, holds.turnOn takes free]
  | @equals setting text takes =>
    refine ⟨_, .read, readTail_long (Word.of_name_equals _ text) ?_⟩
    rw [Scan.readLong, Side.named?_emit setting.known]
    simp only [takes.valued, holds.assign takes free]
  | @awaiting flag valued =>
    rw [List.append_nil]
    refine ⟨_, .awaiting, readTail_long (Word.of_name flag) ?_⟩
    rw [Scan.readLong, Side.named?_emit (Flag.known_of_takesValue valued)]
    simp only [valued, holds.await]
  | letters more cluster =>
    obtain ⟨scan', read, holds'⟩ := cluster.reads holds free
    exact ⟨scan', holds', readTail_short (Word.of_letters cluster more) read⟩

/-- A plain word behind an option that waits for a value is its value. -/
lemma readTail_value (holds : scan.Holds settings (some setting.flag))
    (takes : setting.Takes (some text)) (plain : PlainWord text)
    (free : ConflictFree (settings ++ [setting])) :
    ∃ scan', scan'.Holds (settings ++ [setting]) none ∧
      ∀ words, readTail .emit false scan (text :: words) = readTail .emit false scan' words := by
  cases holds with
  | awaiting =>
    refine ⟨_, .reached takes free, fun words => ?_⟩
    rw [readTail]
    simp only [Bool.false_eq_true, if_false, plain.of_eq, Scan.awaiting]

/-- A row of options is read. -/
lemma Options.reads {options : List String} (written : Options options made)
    (holds : scan.Holds settings none) (free : ConflictFree (settings ++ made)) :
    ∃ scan', scan'.Holds (settings ++ made) none ∧
      ∀ words, readTail .emit false scan (options ++ words) = readTail .emit false scan' words := by
  induction written generalizing scan settings with
  | nil =>
    rw [List.append_nil]
    exact ⟨scan, holds, fun _ => rfl⟩
  | word option _ ih =>
    rw [← List.append_assoc] at free ⊢
    obtain ⟨scan', holds', reads⟩ := option.reads holds free.left
    obtain ⟨last, holds'', rest⟩ := ih holds' free
    exact ⟨last, holds'', fun words => (reads _).trans (rest words)⟩
  | apart option takes plain _ ih =>
    rw [← List.append_assoc, List.append_cons] at free ⊢
    obtain ⟨scan', waits, reads⟩ := option.reads holds free.left.left
    obtain ⟨scan'', holds', value⟩ := readTail_value waits takes plain free.left
    obtain ⟨last, holds'', rest⟩ := ih holds' free
    exact ⟨last, holds'', fun words => (reads _).trans ((value _).trans (rest words))⟩

/-- The first plain word that is no value ends the options, and all words from there on are the
message. -/
lemma readTail_plain {word : String} (holds : scan.Holds settings none) (plain : PlainWord word)
    (words : List String) :
    readTail .emit false scan (word :: words) = .ok ⟨.ofSettings settings, word :: words⟩ := by
  rw [readTail]
  simp only [Bool.false_eq_true, if_false, plain.of_eq, holds.awaits, if_true, holds.settle]
  rfl

end Words

/-- Options that can be set together are not in conflict. -/
lemma Given.inConflict_ofSettings (free : ConflictFree settings) :
    (Given.ofSettings settings).inConflict = false := by
  rw [Given.inConflict, Given.ofSettings]
  by_cases quiet : .quiet ∈ settings
  · have silent : .verbose ∉ settings := fun verbose => free.loudness ⟨quiet, verbose⟩
    rw [if_pos (List.count_eq_zero.mpr silent)]
    exact Bool.and_false _
  · rw [decide_eq_false quiet]
    rfl

/-- What the options behind the name of the command set holds for the command. -/
lemma ofTail_ofSettings {words : List String} (free : ConflictFree settings) (some : words ≠ []) :
    ofTail .emit ⟨.ofSettings settings, words⟩ = .ok (emission settings words).command := by
  simp only [ofTail, Given.inConflict_ofSettings free, Bool.false_eq_true, if_false, if_neg some]
  rfl

lemma globals_ofSettings (settings : List Setting) (words : List String) :
    globals .nothing (.ofSettings settings) = (emission settings words).globals := by
  rw [globals, Given.nothing, Option.or_none, Given.verbose_ofSettings, Option.or_none,
    Option.or_none, Bool.or_false]
  rfl

/-- What is read of options and a message is the same in every environment. -/
lemma parseIn_emit {options : List String} {settings : List Setting} {word : String}
    (written : Options options settings) (free : ConflictFree settings) (plain : PlainWord word)
    (environment : Environment) (words : List String) :
    parseIn environment ("emit" :: options ++ word :: words) = (do
      let filled ← (Given.ofSettings settings).fill environment .emit
      let command ← ofTail .emit ⟨filled, word :: words⟩
      let given ← Given.nothing.fill environment .before
      if given.inConflict then .error .argumentConflict
      else .ok ⟨globals given (.ofSettings settings), command⟩) := by
  obtain ⟨scan, holds, reads⟩ := written.reads .start free
  have front : readFront false .start ("emit" :: options ++ word :: words) =
      .ok (.start, some (.emit, options ++ word :: words)) := rfl
  have tail : readTail .emit false .start (options ++ word :: words) =
      .ok ⟨.ofSettings settings, word :: words⟩ :=
    (reads _).trans (readTail_plain holds plain words)
  have settled : Scan.start.settle = .ok .nothing := rfl
  simp only [parseIn, front, tail, settled, bind, Except.bind]

/-- The first word behind the options that is not spelled like an option begins the message, and the
message is that word and all words behind it as they are. If none of the variables is set, what is
asked for besides the message is what the options in front of it say. In any other environment, what
no variable stands in for still is what the options say. -/
theorem parse_verbatim {options : List String} {settings : List Setting} {word : String}
    (written : Options options settings) (free : ConflictFree settings) (plain : PlainWord word)
    (words : List String) :
    parseIn .unset ("emit" :: options ++ word :: words) = .ok (emission settings (word :: words)) ∧
    ∀ environment invocation,
      parseIn environment ("emit" :: options ++ word :: words) = .ok invocation →
      invocation.globals.quiet = decide (.quiet ∈ settings) ∧
      ∃ config, invocation.command = .emit
        { config := config
          tag := ((Setting.of? settings .tag).bind Setting.tag?).getD "RLOG"
          rank := ((Setting.of? settings .level).bind Setting.rank?).getD 2
          stats := .stats ∈ settings
          words := word :: words } := by
  constructor
  · have calm : Given.nothing.inConflict = false := rfl
    simp only [parseIn_emit written free plain, Given.fill_unset,
      ofTail_ofSettings free (List.cons_ne_nil word words), calm,
      globals_ofSettings settings (word :: words), bind, Except.bind, Bool.false_eq_true, if_false]
  · intro environment invocation read
    rw [parseIn_emit written free plain] at read
    simp only [bind, Except.bind] at read
    split at read
    · cases read
    rename_i filled fills
    split at read
    · cases read
    rename_i command commands
    split at read
    · cases read
    rename_i given fills'
    split at read
    · cases read
    cases read
    obtain ⟨config, verbose, logFormat, metricsPort, rfl⟩ := Given.exists_of_fill fills
    obtain ⟨config', verbose', logFormat', metricsPort', rfl⟩ := Given.exists_of_fill fills'
    refine ⟨Bool.or_false _, config, ?_⟩
    rw [ofTail] at commands
    split at commands
    · cases commands
    · simp only [if_neg (List.cons_ne_nil word words)] at commands
      cases commands
      rfl

/-- The words behind the first one are no options, commands or ends of options. -/
theorem parse_verbatim_dashes :
    Options ["-vvt", "NET", "--level=9", "-c=a=b", "--stats"]
        [.verbose, .verbose, .tag "NET", .level 9, .config "a=b", .stats] ∧
      ConflictFree [.verbose, .verbose, .tag "NET", .level 9, .config "a=b", .stats] ∧
      PlainWord "link" ∧
      parseIn .unset ["emit", "-vvt", "NET", "--level=9", "-c=a=b", "--stats",
        "link", "--", "-v", "-h", "--tag", "--level=9", "emit", ""] =
      .ok ⟨⟨2, false, .compact, none⟩, .emit ⟨some "a=b", "NET", 9, true,
        ["link", "--", "-v", "-h", "--tag", "--level=9", "emit", ""]⟩⟩ := by
  have switches : OptionWord "-vvt" [.verbose, .verbose] (some .tag) :=
    @OptionWord.letters ['v', 'v', 't'] _ _ nofun
      (.switch rfl .verbose (.switch rfl .verbose (.awaiting rfl rfl)))
  have level : OptionWord "--level=9" [.level 9] none :=
    @OptionWord.equals (.level 9) "9" (.number (Text.readNumeral_eq_iff.mp rfl))
  have path : OptionWord "-c=a=b" [.config "a=b"] none :=
    @OptionWord.letters ['c', '=', 'a', '=', 'b'] _ _ nofun
      (@Cluster.equals 'c' (.config "a=b") "a=b" rfl (.config (by decide)))
  have stats : OptionWord "--stats" [.stats] none := .switch .stats
  have written : Options ["-vvt", "NET", "--level=9", "-c=a=b", "--stats"]
      [.verbose, .verbose, .tag "NET", .level 9, .config "a=b", .stats] :=
    @Options.apart _ _ (.tag "NET") _ _ _ switches .tag (.inr nofun)
      (.word level (.word path (.word stats .nil)))
  have free : ConflictFree [.verbose, .verbose, .tag "NET", .level 9, .config "a=b", .stats] :=
    ⟨by decide, by decide⟩
  have plain : PlainWord "link" := .inr nofun
  exact ⟨written, free, plain, (parse_verbatim written free plain _).1⟩

/-- Variables of the environment are taken for options that are not there, and there are options in
front of which no message is sent. -/
theorem parse_by_environment :
    PlainWord "hi" ∧ Options [] [] ∧ Options ["-q"] [.quiet] ∧ ConflictFree [] ∧
      ConflictFree [.quiet] ∧
      parseIn ⟨none, none, none, some "/x"⟩ ["emit", "hi"] =
        .ok ⟨⟨0, false, .compact, none⟩, .emit ⟨some "/x", "RLOG", 2, false, ["hi"]⟩⟩ ∧
      emission [] ["hi"] =
        ⟨⟨0, false, .compact, none⟩, .emit ⟨none, "RLOG", 2, false, ["hi"]⟩⟩ ∧
      parseIn ⟨some "1", none, none, none⟩ ["emit", "-q", "hi"] = .error .argumentConflict ∧
      parseIn .unset ["emit", "-h", "hi"] = .error .displayHelp := by
  have quiet : OptionWord "-q" [.quiet] none :=
    @OptionWord.letters ['q'] _ _ nofun (.switch rfl .quiet .nil)
  exact ⟨.inr nofun, .nil, .word quiet .nil, ⟨by decide, by decide⟩, ⟨by decide, by decide⟩, rfl,
    rfl, rfl, rfl⟩

end LogFanout.Command
