import LogFanout.Target
import LogFanout.Proofs.Text.Cut
import LogFanout.Proofs.Text.Numeral
import Mathlib.Tactic.Lemma

/-!
# Targets and their texts

A target is read back from its text: no mark stands before the one behind the scheme, and the
address is kept as it is written (`parse_text`). A text is a target exactly if it is cut at its
first mark into the name of a scheme and an address that goes with it; otherwise the first thing
wrong with it is reported. Two texts never show the same target, but those of two spellings of a path
are the same (`parse_exact`).
-/

namespace LogFanout
namespace Target

/-- The names of schemes have no colon in them. -/
lemma cutFirst_scheme (scheme : Scheme) (address : List Char) :
    Text.cutFirst mark (scheme.name.toList ++ mark ++ address) =
      some (scheme.name.toList, address) := by
  cases scheme <;> rfl

lemma ofName?_name (scheme : Scheme) : Scheme.ofName? scheme.name = some scheme := by
  cases scheme <;> rfl

lemma toList_text (target : Target) :
    target.text.toList = target.scheme.name.toList ++ mark ++ target.address.toList := by
  rw [text, String.toList_append, String.toList_append, String.toList_ofList]

/-- A target is what its text says. -/
lemma parse_text (target : Target) : parse target.text = .ok target := by
  rw [parse, toList_text, cutFirst_scheme]
  simp only [String.ofList_toList, ofName?_name]
  split
  · rfl
  · rename_i fault refused
    rw [String.ofList_toList] at refused
    cases target.sound.symm.trans refused

/-- The parts of a text before and after its first mark. -/
structure Cut (text name address : String) : Prop where
  eq : text = name ++ "://" ++ address
  first : ∀ name' address', text = name' ++ "://" ++ address' → name.length ≤ name'.length

/-- The name of a scheme of which the address is a host and a port. -/
def Service (name : String) : Prop :=
  name = "tcp" ∨ name = "udp"

/-- The name of a scheme and an address that goes with it. -/
inductive Address : (name address : String) → Prop where
  | service {name host port number} :
    Service name →
    host ≠ "" →
    ':' ∉ port.toList →
    Text.Numeral 65535 port.toList (.ok number) →
    Address name (host ++ ":" ++ port)
  | path {address} :
    address ≠ "" →
    Address "unix" address

/-- The first thing wrong with a text, and how it is put. -/
inductive Refused (text : String) : TargetFault → (reason : String) → Prop where
  | missingScheme :
    (∀ name address, text ≠ name ++ "://" ++ address) →
    Refused text .missingScheme "missing scheme"
  | missingPort {name address} :
    Cut text name address →
    Service name →
    ':' ∉ address.toList →
    Refused text .missingPort "expected host:port"
  | emptyHost {name port} :
    Cut text name (":" ++ port) →
    Service name →
    ':' ∉ port.toList →
    Refused text .emptyHost "empty host"
  | badPort {name host port fault} :
    Cut text name (host ++ ":" ++ port) →
    Service name →
    host ≠ "" →
    ':' ∉ port.toList →
    Text.Numeral 65535 port.toList (.error fault) →
    Refused text (.badPort port fault) ("bad port '" ++ port ++ "': " ++ fault.message)
  | emptyPath :
    Cut text "unix" "" →
    Refused text .emptyPath "empty socket path"
  | unknownScheme {name address} :
    Cut text name address →
    name ∉ ["tcp", "udp", "unix"] →
    Refused text (.unknownScheme name) ("unknown scheme '" ++ name ++ "'")

lemma toList_mark (name address : String) :
    (name ++ "://" ++ address).toList = name.toList ++ mark ++ address.toList := by
  rw [String.toList_append, String.toList_append]
  rfl

lemma cut_iff {text name address : String} :
    Cut text name address ↔ Text.FirstCut mark text.toList name.toList address.toList := by
  constructor
  · rintro ⟨rfl, first⟩
    refine ⟨toList_mark name address, fun before after eq => ?_⟩
    have shorter := first (String.ofList before) (String.ofList after)
    rw [← String.toList_inj, toList_mark (String.ofList before), String.toList_ofList,
      String.toList_ofList] at shorter
    rw [String.length_toList, ← String.length_ofList]
    exact shorter eq
  · rintro ⟨eq, first⟩
    refine ⟨String.toList_inj.mp (eq.trans (toList_mark name address).symm), ?_⟩
    rintro name' address' rfl
    rw [← String.length_toList, ← String.length_toList]
    exact first _ _ (toList_mark name' address')

lemma Cut.cutFirst {text name address : String} (cut : Cut text name address) :
    Text.cutFirst mark text.toList = some (name.toList, address.toList) :=
  Text.cutFirst_eq_some_iff.mpr (cut_iff.mp cut)

/-- A text has a mark in it and is cut there, or it has none. -/
lemma exists_cut (text : String) :
    (∃ name address, Cut text name address) ∨
      ∀ name address, text ≠ name ++ "://" ++ address := by
  cases cut : Text.cutFirst mark text.toList with
  | some parts =>
    obtain ⟨name, address⟩ := parts
    have first := Text.cutFirst_eq_some_iff.mp cut
    rw [← String.toList_ofList (l := name), ← String.toList_ofList (l := address)] at first
    exact .inl ⟨_, _, cut_iff.mpr first⟩
  | none =>
    refine .inr fun name address eq => ?_
    have nowhere := Text.cutFirst_eq_none_iff.mp cut name.toList address.toList
    rw [eq, toList_mark] at nowhere
    exact nowhere rfl

lemma ofName?_eq_none {name : String} (unknown : name ∉ ["tcp", "udp", "unix"]) :
    Scheme.ofName? name = none := by
  rw [Scheme.ofName?]
  all_goals
    rintro rfl
    simp at unknown

/-- Services are the schemes that want a host and a port. -/
lemma Service.exists_scheme {name : String} (service : Service name) :
    ∃ scheme : Scheme, name = scheme.name ∧
      ∀ address, scheme.check address = Scheme.checkHostPort address := by
  rcases service with rfl | rfl
  · exact ⟨.tcp, rfl, fun _ => rfl⟩
  · exact ⟨.udp, rfl, fun _ => rfl⟩

lemma toList_colon (host port : String) :
    (host ++ ":" ++ port).toList = host.toList ++ ':' :: port.toList := by
  rw [String.toList_append, String.toList_append, List.append_assoc]
  rfl

lemma checkHostPort_colon (host : String) {port : String} (last : ':' ∉ port.toList) :
    Scheme.checkHostPort (host ++ ":" ++ port) =
      if host = "" then .error .emptyHost
      else
        match Text.readNumeral 65535 port.toList with
        | .ok _ => .ok ()
        | .error fault => .error (.badPort port fault) := by
  have cut := Text.cutLast_eq_some_iff.mpr ⟨toList_colon host port, last⟩
  rw [Scheme.checkHostPort, cut]
  by_cases empty : host = ""
  · rw [if_pos empty, empty]
    rfl
  · rw [if_neg empty]
    have more : host.toList ≠ [] := fun eq => empty (String.toList_eq_nil_iff.mp eq)
    obtain ⟨c, cs, eq⟩ := List.exists_cons_of_ne_nil more
    rw [eq]
    simp only [String.ofList_toList]
    rfl

lemma checkHostPort_missing {address : String} (absent : ':' ∉ address.toList) :
    Scheme.checkHostPort address = .error .missingPort := by
  rw [Scheme.checkHostPort, Text.cutLast_eq_none_iff.mpr absent]

/-- The scheme decides what becomes of the address. -/
lemma Cut.parse_error {text address : String} {scheme : Scheme}
    (cut : Cut text scheme.name address) {fault : TargetFault}
    (refused : scheme.check address = .error fault) : parse text = .error ⟨text, fault⟩ := by
  rw [parse, cut.cutFirst]
  simp only [String.ofList_toList, ofName?_name]
  split
  · rename_i sound
    rw [String.ofList_toList, refused] at sound
    cases sound
  · rename_i fault' refused'
    rw [String.ofList_toList, refused] at refused'
    cases refused'
    rfl

lemma Cut.parse_ok {text address : String} {scheme : Scheme} (cut : Cut text scheme.name address)
    (sound : scheme.check address = .ok ()) : parse text = .ok ⟨scheme, address, sound⟩ := by
  have same : text = (⟨scheme, address, sound⟩ : Target).text := cut.eq
  rw [same, parse_text]

/-- What is said of a text that is refused. -/
lemma Refused.parse {text reason : String} {fault : TargetFault}
    (refused : Refused text fault reason) :
    parse text = .error ⟨text, fault⟩ ∧ fault.message = reason := by
  cases refused with
  | missingScheme nowhere =>
    have none : Text.cutFirst mark text.toList = none := by
      refine Text.cutFirst_eq_none_iff.mpr fun name address eq => ?_
      apply nowhere (String.ofList name) (String.ofList address)
      rw [← String.toList_inj, toList_mark, String.toList_ofList, String.toList_ofList, eq]
    refine ⟨?_, rfl⟩
    rw [Target.parse, none]
  | missingPort cut service absent =>
    obtain ⟨scheme, rfl, checks⟩ := service.exists_scheme
    exact ⟨cut.parse_error ((checks _).trans (checkHostPort_missing absent)), rfl⟩
  | emptyHost cut service last =>
    obtain ⟨scheme, rfl, checks⟩ := service.exists_scheme
    exact ⟨cut.parse_error ((checks _).trans (checkHostPort_colon "" last)), rfl⟩
  | @badPort name host port fault cut service some last numeral =>
    obtain ⟨scheme, rfl, checks⟩ := service.exists_scheme
    have checked := checkHostPort_colon host last
    rw [if_neg some, Text.readNumeral_eq_iff.mpr numeral] at checked
    exact ⟨cut.parse_error ((checks _).trans checked), rfl⟩
  | emptyPath cut =>
    have cut : Cut text Scheme.unix.name "" := cut
    exact ⟨cut.parse_error rfl, rfl⟩
  | unknownScheme cut unknown =>
    refine ⟨?_, rfl⟩
    rw [Target.parse, cut.cutFirst]
    simp only [String.ofList_toList, ofName?_eq_none unknown]

/-- What goes with a scheme is a target. -/
lemma Address.parse {text name address : String} (goes : Address name address)
    (cut : Cut text name address) :
    ∃ target, parse text = .ok target ∧ target.scheme.name = name ∧ target.address = address := by
  cases goes with
  | @service _ host port number service some last numeral =>
    obtain ⟨scheme, rfl, checks⟩ := service.exists_scheme
    have checked := checkHostPort_colon host last
    rw [if_neg some, Text.readNumeral_eq_iff.mpr numeral] at checked
    exact ⟨_, cut.parse_ok ((checks _).trans checked), rfl, rfl⟩
  | path some =>
    have cut : Cut text Scheme.unix.name address := cut
    exact ⟨_, cut.parse_ok (if_neg some), rfl, rfl⟩

/-- An address with a colon is cut at its last one. -/
lemma exists_port (address : String) :
    ':' ∉ address.toList ∨ ∃ host port, address = host ++ ":" ++ port ∧ ':' ∉ port.toList := by
  cases cut : Text.cutLast ':' address.toList with
  | none => exact .inl (Text.cutLast_eq_none_iff.mp cut)
  | some parts =>
    obtain ⟨host, port⟩ := parts
    obtain ⟨eq, last⟩ := Text.cutLast_eq_some_iff.mp cut
    refine .inr ⟨String.ofList host, String.ofList port, ?_, ?_⟩
    · rw [← String.toList_inj, eq, toList_colon, String.toList_ofList, String.toList_ofList]
    · rwa [String.toList_ofList]

/-- A text is cut into a scheme and an address, or something is wrong with it. -/
lemma address_or_refused (text : String) :
    (∃ name address, Cut text name address ∧ Address name address) ∨
      ∃ fault reason, Refused text fault reason := by
  rcases exists_cut text with ⟨name, address, cut⟩ | nowhere
  · by_cases service : Service name
    · rcases exists_port address with absent | ⟨host, port, rfl, last⟩
      · exact .inr ⟨_, _, .missingPort cut service absent⟩
      by_cases empty : host = ""
      · subst empty
        exact .inr ⟨_, _, .emptyHost cut service last⟩
      obtain ⟨fault | number, numeral⟩ := Text.exists_numeral 65535 port.toList
      · exact .inr ⟨_, _, .badPort cut service empty last numeral⟩
      · exact .inl ⟨_, _, cut, .service service empty last numeral⟩
    by_cases path : name = "unix"
    · subst path
      by_cases empty : address = ""
      · subst empty
        exact .inr ⟨_, _, .emptyPath cut⟩
      · exact .inl ⟨_, _, cut, .path empty⟩
    · refine .inr ⟨_, _, .unknownScheme cut ?_⟩
      simp only [Service, not_or] at service
      simp [service, path]
  · exact .inr ⟨_, _, .missingScheme nowhere⟩

/-- A target says what it was read from. -/
lemma of_parse {text : String} {target : Target} (read : parse text = .ok target) :
    Cut text target.scheme.name target.address ∧
      Address target.scheme.name target.address ∧ target.text = text := by
  rcases address_or_refused text with ⟨name, address, cut, goes⟩ | ⟨fault, reason, refused⟩
  · obtain ⟨target', read', rfl, rfl⟩ := goes.parse cut
    cases read.symm.trans read'
    exact ⟨cut, goes, cut.eq.symm⟩
  · cases read.symm.trans refused.parse.1

/-- Services are told apart by their addresses. -/
lemma Same.address_eq {target other : Target} (same : Same target other)
    (service : Service target.scheme.name) : target.address = other.address := by
  obtain ⟨scheme, place⟩ := same
  rw [Target.place, Target.place, ← scheme] at place
  cases eq : target.scheme with
  | tcp | udp =>
    rw [eq] at place
    exact Sum.inl.inj place
  | unix =>
    rw [eq] at service
    rcases service with name | name <;> simp [Scheme.name] at name

/-- Services are the same only if they are written in one way. -/
lemma Same.text_eq {target other : Target} (same : Same target other)
    (service : Service target.scheme.name) : target.text = other.text := by
  rw [text, text, same.1, same.address_eq service]

/-- Sockets in the file system are the same if their paths have the same components. -/
lemma same_unix_iff {target other : Target} (unix : target.scheme = .unix) :
    Same target other ↔ other.scheme = .unix ∧
      Path.components target.address = Path.components other.address := by
  constructor
  · rintro ⟨scheme, place⟩
    rw [unix] at scheme
    rw [Target.place, Target.place, unix, ← scheme] at place
    exact ⟨scheme.symm, Sum.inr.inj place⟩
  · rintro ⟨scheme, components⟩
    refine ⟨unix.trans scheme.symm, ?_⟩
    rw [Target.place, Target.place, unix, scheme]
    exact congrArg Sum.inr components

/-- The texts that are targets, the target of each of them, and what is said of every other text.
No two texts have targets with one text, or one service; they can have targets with one path. -/
theorem parse_exact (text : String) :
    ((∃ target, parse text = .ok target) ↔
      ∃ name address, Cut text name address ∧ Address name address) ∧
    (∀ target, parse text = .ok target ↔
      Cut text target.scheme.name target.address ∧
        Address target.scheme.name target.address ∧ target.text = text) ∧
    (∀ target, parse text = .ok target → parse target.text = .ok target ∧
      ∀ text' ≠ text, ∀ other, parse text' = .ok other →
        other.text ≠ target.text ∧
        (Service target.scheme.name → ¬ Same target other) ∧
        (target.scheme = .unix → (Same target other ↔ other.scheme = .unix ∧
          Path.components target.address = Path.components other.address))) ∧
    ∀ e, parse text = .error e ↔ ∃ reason, Refused text e.fault reason ∧ e.text = text ∧
      e.message = "invalid socket target '" ++ text ++ "': " ++ reason := by
  refine ⟨⟨?_, ?_⟩, fun target => ⟨of_parse, ?_⟩, fun target read => ⟨parse_text target, ?_⟩,
    fun e => ⟨fun read => ?_, ?_⟩⟩
  · rintro ⟨target, read⟩
    obtain ⟨cut, goes, -⟩ := of_parse read
    exact ⟨_, _, cut, goes⟩
  · rintro ⟨name, address, cut, goes⟩
    obtain ⟨target, read, -⟩ := goes.parse cut
    exact ⟨target, read⟩
  · rintro ⟨-, -, rfl⟩
    exact parse_text target
  · intro text' ne other read'
    have apart : other.text ≠ target.text := by
      rw [(of_parse read').2.2, (of_parse read).2.2]
      exact ne
    exact ⟨apart, fun service same => apart (same.text_eq service).symm, same_unix_iff⟩
  · rcases address_or_refused text with ⟨name, address, cut, goes⟩ | ⟨fault, reason, refused⟩
    · obtain ⟨target, read', -⟩ := goes.parse cut
      cases read.symm.trans read'
    · obtain ⟨read', rfl⟩ := refused.parse
      cases read.symm.trans read'
      exact ⟨_, refused, rfl, rfl⟩
  · rintro ⟨reason, refused, rfl, -⟩
    exact refused.parse.1

/-- A path with a slash written twice: two texts, one target. -/
theorem parse_double_slash :
    ∃ target other, parse "unix:///a//b" = .ok target ∧ parse "unix:///a/b" = .ok other ∧
      "unix:///a//b" ≠ "unix:///a/b" ∧ Same target other :=
  ⟨⟨.unix, "/a//b", rfl⟩, ⟨.unix, "/a/b", rfl⟩, parse_text ⟨.unix, "/a//b", rfl⟩,
    parse_text ⟨.unix, "/a/b", rfl⟩, by decide, by decide⟩

end Target
end LogFanout
