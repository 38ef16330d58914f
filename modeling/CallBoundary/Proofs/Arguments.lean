import CallBoundary.Request
import Mathlib.Data.List.TakeDrop

/-! Requests as arguments. A request can be asked for exactly if none of its paths is empty, and it
is read back from the arguments that it is written as. The order of options and input does not
matter. -/
namespace CallBoundary.Request

variable {r : Request} {items others : List Item}

/-- No path is empty, and a listing goes to a file if one is named. -/
def WellFormed : Request → Prop
  | .lower input output options =>
    input ≠ "" ∧ output ≠ some "" ∧ options.toFile = output.isSome
  | .check input => input ≠ ""

def Switch.name : Switch → String
  | verbose => "verbose"
  | noBinding => "no-binding"
  | baseOverloads => "base-overloads"

def Setting.name : Setting → String
  | output => "output"
  | mode => "mode"

/-- A value stands behind an equals sign, so it may look like an option. -/
def Item.argument : Item → String
  | .switch s => "--" ++ s.name
  | .setting s value => "--" ++ s.name ++ "=" ++ value
  | .operand text => text

/-- Not an operand that is taken for an option. -/
def Item.IsPlain : Item → Prop
  | .operand text => isOption text.toList = false
  | _ => True

def modeName : Mode → String
  | .normal => "normal"
  | .alternative => "alternative"

def command : Request → String
  | .lower .. => "lower"
  | .check _ => "check"

def input : Request → String
  | .lower input _ _ => input
  | .check input => input

/-- The options that ask for the request. -/
def options : Request → List Item
  | .lower _ output options =>
    .setting .mode (modeName options.mode) ::
      (if options.noBinding then [.switch .noBinding] else []) ++
      (if options.baseOverloads then [.switch .baseOverloads] else []) ++
      output.toList.map (.setting .output)
  | .check _ => []

/-- The input stands behind the end of the options. -/
def arguments (r : Request) : List String :=
  r.command :: (r.options.map Item.argument ++ ["--", r.input])

theorem Setting.long?_name (s : Setting) (value : List Char) :
    long? (s.name.toList ++ '=' :: value) = some ([.setting s (String.ofList value)], none) := by
  have before : ∀ c ∈ s.name.toList, (c != '=') = true :=
    List.all_eq_true.mp (by cases s <;> rfl)
  have name : (s.name.toList ++ '=' :: value).span (· != '=') = (s.name.toList, '=' :: value) := by
    rw [List.span_eq_takeWhile_dropWhile, List.takeWhile_append_of_pos before,
      List.dropWhile_append_of_pos before]
    simp
  have found : Setting.ofName? s.name = some s := by cases s <;> rfl
  have switchless : Switch.ofName? s.name = none := by cases s <;> rfl
  rw [long?, name]
  simp [found, switchless]

/-- An option is read from its argument. -/
theorem Item.option?_argument {item : Item} (option : ∀ text, item ≠ .operand text) :
    item.argument ≠ "--" ∧ isOption item.argument.toList = true ∧
      option? item.argument.toList = some ([item], none) := by
  cases item with
  | switch s => cases s <;> exact ⟨by decide, by decide, rfl⟩
  | setting s value =>
    have apart : (Item.setting s value).argument.toList =
        '-' :: '-' :: (s.name.toList ++ '=' :: value.toList) := by
      simp [argument]
    refine ⟨fun bare => ?_, by rw [apart]; rfl, ?_⟩
    · have letters := congrArg String.toList bare
      rw [apart] at letters
      simp at letters
    · rw [apart, option?, s.long?_name, String.ofList_toList]
  | operand text => exact absurd rfl (option text)

theorem items?_operand {text : String} (plain : isOption text.toList = false)
    (rest : List String) :
    items? none (text :: rest) = (items? none rest).map (.operand text :: ·) := by
  have other : text ≠ "--" := by
    rintro rfl
    contradiction
  rw [items?, if_neg other, plain]
  rfl

theorem items?_option {item : Item} (option : ∀ text, item ≠ .operand text) (rest : List String) :
    items? none (item.argument :: rest) = (items? none rest).map (item :: ·) := by
  obtain ⟨other, dashed, read⟩ := Item.option?_argument option
  rw [items?, if_neg other, if_pos dashed, read]
  change (items? none rest).bind (fun items => some (item :: items)) = _
  cases items? none rest <;> rfl

/-- The value of a setting may be an argument of its own, if it does not look like an option. -/
theorem items?_detached (s : Setting) {value : String} (plain : isOption value.toList = false)
    (rest : List String) : items? none (("--" ++ s.name) :: value :: rest) =
      items? none ((Item.setting s value).argument :: rest) := by
  have name : option? ("--" ++ s.name).toList = some ([], some s) := by cases s <;> rfl
  have dashed : isOption ("--" ++ s.name).toList = true := by cases s <;> decide
  have other : "--" ++ s.name ≠ "--" := by cases s <;> decide
  rw [items?_option (by simp), items?, if_neg other, if_pos dashed, name]
  change (items? (some s) (value :: rest)).bind (fun items => some ([] ++ items)) = _
  rw [items?, plain]
  cases items? none rest <;> rfl

example : items? none ["-vo=a.txt", "--mode", "normal", "-"] = some
    [.switch .verbose, .setting .output "a.txt", .setting .mode "normal", .operand "-"] := by
  decide +kernel

/-- What is written as arguments is read back, whatever follows. -/
theorem items?_arguments (plain : ∀ item ∈ items, item.IsPlain) (rest : List String) :
    items? none (items.map Item.argument ++ rest) = (items? none rest).map (items ++ ·) := by
  induction items with
  | nil => simp
  | cons item items ih =>
    obtain ⟨head, tail⟩ := List.forall_mem_cons.mp plain
    have first : items? none (item.argument :: (items.map Item.argument ++ rest)) =
        (items? none (items.map Item.argument ++ rest)).map (item :: ·) := by
      cases item with
      | operand text => exact items?_operand head _
      | switch | setting => exact items?_option (by simp) _
    rw [List.map_cons, List.cons_append, first, ih tail, Option.map_map]
    rfl

theorem items?_rest (rest : List String) : items? none ("--" :: rest) = some (rest.map .operand) :=
  if_pos rfl

theorem options_plain (r : Request) : ∀ item ∈ r.options, item.IsPlain := by
  have optional (b : Bool) (s : Switch) : ∀ item ∈ (if b then [Item.switch s] else []),
      item.IsPlain := by
    cases b <;> simp [Item.IsPlain]
  cases r with
  | lower path output asked =>
    simp only [options, List.forall_mem_append, List.forall_mem_cons]
    refine ⟨⟨⟨trivial, optional _ _⟩, optional _ _⟩, ?_⟩
    simp [Item.IsPlain]
  | check => simp [options]

theorem mode?_modeName (mode : Mode) : mode? (some (modeName mode)) = some mode := by
  cases mode <;> rfl

theorem path?_eq_some {text path : String} : path? text = some path ↔ text ≠ "" ∧ text = path := by
  rw [path?]
  split <;> simp_all

theorem paths?_eq_some {texts paths : Option String} :
    texts.mapM path? = some paths ↔ texts ≠ some "" ∧ texts = paths := by
  cases texts with
  | none =>
    change some none = some paths ↔ _
    simp
  | some text => cases paths <;> simp [path?_eq_some]

theorem atMostOne?_eq_some {as : List α} {found : Option α} :
    atMostOne? as = some found ↔ as = found.toList := by
  match as with
  | [] => cases found <;> simp [atMostOne?]
  | [a] => cases found <;> simp [atMostOne?]
  | a :: b :: as => cases found <;> simp [atMostOne?]

theorem lower?_eq_some : lower? items = some r ↔ ∃ path output name mode verbose base bare,
    operands items = [path] ∧ path ≠ "" ∧
    values .output items = output.toList ∧ output ≠ some "" ∧
    values .mode items = Option.toList name ∧ mode? name = some mode ∧
    switched? .verbose items = some verbose ∧ switched? .baseOverloads items = some base ∧
    switched? .noBinding items = some bare ∧
    r = .lower path output ⟨⟨mode, base⟩, bare, output.isSome⟩ := by
  simp only [lower?, bind, Option.bind_eq_some_iff, atMostOne?_eq_some, path?_eq_some,
    paths?_eq_some, pure, Option.some.injEq]
  constructor
  · intro read
    obtain ⟨_, inputs, _, ⟨path, rfl, named, rfl⟩, output, outputs, _, ⟨file, rfl⟩, name, names,
      mode, known, verbose, loud, base, overloads, bare, unbound, rfl⟩ := read
    exact ⟨path, output, name, mode, verbose, base, bare, inputs, named, outputs, file, names,
      known, loud, overloads, unbound, rfl⟩
  · intro parts
    obtain ⟨path, output, name, mode, verbose, base, bare, inputs, named, outputs, file, names,
      known, loud, overloads, unbound, rfl⟩ := parts
    exact ⟨some path, inputs, path, ⟨_, rfl, named, rfl⟩, _, outputs, output, ⟨file, rfl⟩, name,
      names, mode, known, verbose, loud, base, overloads, bare, unbound, rfl⟩

theorem check?_eq_some : check? items = some r ↔ ∃ path,
    items.erase (.switch .verbose) = [.operand path] ∧ path ≠ "" ∧ r = .check path := by
  rw [check?]
  generalize items.erase (.switch .verbose) = rest
  match rest with
  | [] => simp [atMostOne?]
  | [.operand path] => by_cases named : path = "" <;> simp [atMostOne?, path?, named, eq_comm]
  | [.switch s] => simp [atMostOne?]
  | [.setting s value] => simp [atMostOne?]
  | a :: b :: rest => simp [atMostOne?]

/-- A listing is read back from its options and its input. -/
theorem lower?_options {path : String} {output : Option String} {asked : Command.LowerOptions}
    (wellFormed : (lower path output asked).WellFormed) :
    lower? ((lower path output asked).options ++ [.operand path]) =
      some (lower path output asked) := by
  obtain ⟨named, file, toFile⟩ := wellFormed
  obtain ⟨⟨mode, base⟩, bare, _⟩ := asked
  subst toFile
  refine lower?_eq_some.mpr ⟨path, output, some (modeName mode), mode, false, base, bare, ?_, named,
    ?_, file, ?_, mode?_modeName mode, ?_, ?_, ?_, rfl⟩
  -- once it is known which options are there, they stand in a list of fixed length
  all_goals cases output <;> cases base <;> cases bare <;> rfl

theorem ofArguments?_command (r : Request) (rest : List String) :
    ofArguments? (r.command :: rest) = command? (r.command :: rest) := by
  cases r <;> rfl

theorem ofArguments?_arguments (wellFormed : r.WellFormed) : ofArguments? r.arguments = some r := by
  have read : items? none (r.options.map Item.argument ++ ["--", r.input]) =
      some (r.options ++ [.operand r.input]) := by
    rw [items?_arguments r.options_plain, items?_rest]
    rfl
  rw [arguments, ofArguments?_command]
  cases r with
  | lower path output asked =>
    rw [command, command?, read]
    exact lower?_options wellFormed
  | check path =>
    rw [command, command?, read, Option.bind_some]
    exact check?_eq_some.mpr ⟨path, rfl, wellFormed, rfl⟩

theorem wellFormed_of_command? {arguments : List String} (read : command? arguments = some r) :
    r.WellFormed := by
  unfold command? at read
  split at read
  · obtain ⟨items, -, read⟩ := Option.bind_eq_some_iff.mp read
    obtain ⟨path, output, -, -, -, -, -, -, named, -, file, -, -, -, -, -, rfl⟩ :=
      lower?_eq_some.mp read
    exact ⟨named, file, rfl⟩
  · obtain ⟨items, -, read⟩ := Option.bind_eq_some_iff.mp read
    obtain ⟨path, -, named, rfl⟩ := check?_eq_some.mp read
    exact named
  · contradiction

/-- Each request without empty paths can be asked for, by the arguments that it is written as, and
no other request can. -/
theorem exists_arguments_iff : (∃ arguments, ofArguments? arguments = some r) ↔ r.WellFormed := by
  constructor
  · intro asked
    obtain ⟨arguments, read⟩ := asked
    unfold ofArguments? at read
    split at read <;> exact wellFormed_of_command? read
  · exact fun wellFormed => ⟨r.arguments, ofArguments?_arguments wellFormed⟩

theorem atMostOne?_perm {as bs : List α} (same : as.Perm bs) : atMostOne? as = atMostOne? bs := by
  match as with
  | [] => rw [same.nil_eq]
  | [a] => rw [List.singleton_perm.mp same]
  | a :: b :: as =>
    match bs, same.length_eq with
    | c :: d :: bs, _ => rfl

theorem lower?_perm (same : items.Perm others) : lower? items = lower? others := by
  have inputs : atMostOne? (operands items) = atMostOne? (operands others) :=
    atMostOne?_perm (same.filterMap _)
  have settings (s : Setting) : atMostOne? (values s items) = atMostOne? (values s others) :=
    atMostOne?_perm (same.filterMap _)
  have switches (s : Switch) : switched? s items = switched? s others := by
    rw [switched?, same.count_eq, switched?]
  rw [lower?, inputs, settings, settings, switches, switches, switches, lower?]

theorem check?_perm (same : items.Perm others) : check? items = check? others := by
  rw [check?, atMostOne?_perm (same.erase _), check?]

theorem items?_plain (plain : ∀ item ∈ items, item.IsPlain) :
    items? none (items.map Item.argument) = some items := by
  have all := items?_arguments plain []
  simpa [items?] using all

/-- Options, with their values behind an equals sign, and the input may come in any order. -/
theorem ofArguments?_perm (plain : ∀ item ∈ items, item.IsPlain) (same : items.Perm others) :
    ofArguments? ("lower" :: items.map Item.argument) =
      ofArguments? ("lower" :: others.map Item.argument) ∧
    ofArguments? ("check" :: items.map Item.argument) =
      ofArguments? ("check" :: others.map Item.argument) := by
  have moved : ∀ item ∈ others, item.IsPlain := fun item member =>
    plain item (same.mem_iff.mpr member)
  constructor
  · change (items? none _).bind lower? = (items? none _).bind lower?
    rw [items?_plain plain, items?_plain moved, Option.bind_some, Option.bind_some]
    exact lower?_perm same
  · change (items? none _).bind check? = (items? none _).bind check?
    rw [items?_plain plain, items?_plain moved, Option.bind_some, Option.bind_some]
    exact check?_perm same

end CallBoundary.Request
