import AttemptLog.Proofs.Settings.Toml
import AttemptLog.Proofs.Settings.Variables
/-!
Which of its sources each setting comes from.

A setting that is asked for has a `Slot`: its table and name in the tree of settings, and a plain variable. The
variables with the mark that have the name of a slot are those whose name, in lower case, has a double underscore or a
point between table and name (`Slot.settingName?_eq_dotted_iff`). Hashed collections leave it open which of two
members of a source is set first. It makes no difference if no other variable with the mark stands for a path around a
slot or below it (`Environment.Clear`), and if no two members of the file change what stands at one slot
(`Determined`): what is set there is then what the last of the variables says, or else what the file says
(`SettingsLibrary.at?_settingTree`). `Settings.load_layered` says what this makes of all settings.
-/
namespace AttemptLog

/-! ## Names with the mark -/

theorem dottedName_of_not_mem {chars : List Char} (h : '.' ∉ dottedName chars) : dottedName chars = chars := by
  fun_induction dottedName chars with
  | case1 rest ih => exact absurd List.mem_cons_self h
  | case2 c rest hpair ih => rw [ih fun hrest => h (List.mem_cons_of_mem _ hrest)]
  | case3 => rfl

theorem dottedName_cons {c : Char} (h : c ≠ '_') (rest : List Char) : dottedName (c :: rest) = c :: dottedName rest :=
  dottedName.eq_2 c rest fun _ hc _ => h hc

theorem dottedName_append {group : List Char} (h : '_' ∉ group) (rest : List Char) :
    dottedName (group ++ rest) = group ++ dottedName rest := by
  induction group with
  | nil => rfl
  | cons c group ih =>
    obtain ⟨hc, hgroup⟩ := not_or.1 (mt List.mem_cons.2 h)
    rw [List.cons_append, dottedName_cons (Ne.symm hc), ih hgroup, List.cons_append]

/-- a name with one point in it comes of a double underscore, or of the point itself -/
theorem dottedName_eq_append_iff {chars group key : List Char} (hmark : '_' ∉ group) (hgroup : '.' ∉ group)
    (hkey : dottedName key = key) (hpoint : '.' ∉ key) :
    dottedName chars = group ++ '.' :: key ↔ chars = group ++ '_' :: '_' :: key ∨ chars = group ++ '.' :: key := by
  constructor
  · intro h
    induction group generalizing chars with
    | nil =>
      have hrest : ∀ {rest}, dottedName rest = key → rest = key := fun {rest} hrest =>
        (dottedName_of_not_mem (hrest ▸ hpoint)).symm.trans hrest
      fun_cases dottedName chars with
      | case1 rest =>
        rw [dottedName, List.nil_append] at h
        exact .inl (by rw [hrest (List.cons.inj h).2, List.nil_append])
      | case2 c rest hpair =>
        rw [dottedName.eq_2 c rest hpair, List.nil_append] at h
        obtain ⟨rfl, hkeyed⟩ := List.cons.inj h
        exact .inr (by rw [hrest hkeyed, List.nil_append])
      | case3 => cases h
    | cons first group ih =>
      obtain ⟨-, hunmarked⟩ := not_or.1 (mt List.mem_cons.2 hmark)
      obtain ⟨hfirst, hwhole⟩ := not_or.1 (mt List.mem_cons.2 hgroup)
      fun_cases dottedName chars with
      | case1 rest =>
        rw [dottedName] at h
        exact absurd (List.cons.inj h).1 hfirst
      | case2 c rest hpair =>
        rw [dottedName.eq_2 c rest hpair] at h
        obtain ⟨rfl, hkeyed⟩ := List.cons.inj h
        exact (ih hunmarked hwhole hkeyed).imp (congrArg (c :: ·)) (congrArg (c :: ·))
      | case3 => cases h
  · rintro (rfl | rfl)
    · rw [dottedName_append hmark, dottedName, hkey]
    · rw [dottedName_append hmark, dottedName_cons (by decide), hkey]

/-- the name of a variable with the mark is the mark, and after it a name in which double underscores stand for
points -/
theorem settingName?_eq_some_iff {name dotted : String} :
    settingName? name = some dotted ↔
      ∃ rest, (Text.lowercase name).toList = "app__".toList ++ rest ∧ dottedName rest = dotted.toList := by
  have hsplit : settingName? name =
      if "app__".toList.isPrefixOf (Text.lowercase name).toList then
        some (String.ofList (dottedName ((Text.lowercase name).toList.drop "app__".toList.length)))
      else none := rfl
  rw [hsplit]
  constructor
  · intro h
    split_ifs at h with hprefix
    obtain ⟨rest, hrest⟩ := List.isPrefixOf_iff_prefix.1 hprefix
    refine ⟨rest, hrest.symm, ?_⟩
    rw [← Option.some.inj h, String.toList_ofList, ← hrest, List.drop_left]
  · rintro ⟨rest, hlower, hdotted⟩
    rw [hlower, if_pos (List.isPrefixOf_iff_prefix.2 (List.prefix_append _ _)), List.drop_left, hdotted,
      String.ofList_toList]

/-! ## Settings that are asked for -/

/-- where a setting is looked for: its table, its name there, and the plain variable -/
structure Slot where
  table : String
  name : String
  plain : String
  deriving DecidableEq

namespace Slot

def databaseUri : Slot := ⟨"database", "mongo_uri", "MONGO_URI"⟩
def databaseName : Slot := ⟨"database", "mongo_database", "MONGO_DATABASE"⟩
def backend : Slot := ⟨"storage", "backend", "STORAGE_BACKEND"⟩
def address : Slot := ⟨"server", "bind_addr", "BIND_ADDR"⟩
def credential : Slot := ⟨"metrics", "auth", "METRICS_AUTH"⟩
def sendsTraces : Slot := ⟨"telemetry", "otlp_enabled", "OTEL_ENABLED"⟩

def all : List Slot := [databaseUri, databaseName, backend, address, credential, sendsTraces]

def path (slot : Slot) : List String := [slot.table, slot.name]

/-- the name of the path -/
def dotted (slot : Slot) : String := slot.table ++ "." ++ slot.name

/-- is this the name of the variable with the mark, in any letter case -/
def IsMarked (slot : Slot) (name : String) : Prop :=
  Text.lowercase name = "app__" ++ slot.table ++ "__" ++ slot.name ∨
    Text.lowercase name = "app__" ++ slot.table ++ "." ++ slot.name

instance (slot : Slot) (name : String) : Decidable (slot.IsMarked name) := inferInstanceAs (Decidable (_ ∨ _))

theorem placeOf_dotted : ∀ slot ∈ all, Setting.placeOf slot.dotted = (slot.path, false) := by decide

theorem settingName?_eq_dotted_iff {slot : Slot} (hslot : slot ∈ all) (name : String) :
    settingName? name = some slot.dotted ↔ slot.IsMarked name := by
  have hplain : '_' ∉ slot.table.toList ∧ '.' ∉ slot.table.toList ∧ dottedName slot.name.toList = slot.name.toList ∧
      '.' ∉ slot.name.toList := by
    revert slot
    decide
  obtain ⟨hmark, htable, hname, hpoint⟩ := hplain
  have hdotted : slot.dotted.toList = slot.table.toList ++ '.' :: slot.name.toList := by
    simp [dotted]
  calc settingName? name = some slot.dotted
    _ ↔ ∃ rest, (Text.lowercase name).toList = "app__".toList ++ rest ∧
        (rest = slot.table.toList ++ '_' :: '_' :: slot.name.toList ∨
          rest = slot.table.toList ++ '.' :: slot.name.toList) := by
      simp only [settingName?_eq_some_iff, hdotted, dottedName_eq_append_iff hmark htable hname hpoint]
    _ ↔ slot.IsMarked name := by
      simp only [IsMarked, ← String.toList_inj, String.toList_append, and_or_left, exists_or, exists_eq_right,
        List.append_assoc]
      exact Iff.rfl

end Slot

namespace Environment

/-- the value of the last variable with the mark that has the name of a slot -/
def marked? (environment : Environment) (slot : Slot) : Option String :=
  (environment.entries.reverse.find? fun entry => slot.IsMarked entry.1).map (·.2)

/-- each variable with the mark has the name of a slot, or it stands for a path that is neither around one nor below
it -/
def Clear (environment : Environment) : Prop :=
  ∀ mark ∈ environment.marks, ∀ slot ∈ Slot.all,
    mark.1 = slot.dotted ∨ Setting.Apart (Setting.placeOf mark.1).1 slot.path

instance (environment : Environment) : Decidable environment.Clear := inferInstanceAs (Decidable (∀ mark ∈ _, _))

theorem member?_settings (environment : Environment) (name : String) :
    (Setting.table environment.settings).member? name =
      (environment.marks.reverse.find? fun mark => mark.1 == name).map fun mark => .text mark.2 := by
  have hfold : ∀ (marks : List (String × String)) (olds : List (String × Setting)),
      (Setting.table (marks.foldl (fun members mark => Setting.putMember mark.1 (.text mark.2) members) olds)).member?
          name =
        (((marks.reverse.find? fun mark => mark.1 == name).map fun mark => .text mark.2) <|>
          (Setting.table olds).member? name) := by
    intro marks
    induction marks with
    | nil => intro olds; rfl
    | cons mark marks ih =>
      intro olds
      rw [List.foldl_cons, ih, List.reverse_cons, List.find?_append, Setting.member?_putMember]
      cases marks.reverse.find? fun mark => mark.1 == name with
      | some last => rfl
      | none => by_cases hname : mark.1 = name <;> simp [hname]
  rw [settings, hfold]
  simp [Setting.member?, Setting.members]

/-- what holds without settings and after each one that is put in its place holds of all that variables give -/
theorem settings_induction {motive : List (String × Setting) → Prop} (environment : Environment) (nil : motive [])
    (put : ∀ members, motive members → ∀ mark ∈ environment.marks,
      motive (Setting.putMember mark.1 (.text mark.2) members)) : motive environment.settings :=
  List.foldlRecOn environment.marks _ nil put

theorem nodup_settings (environment : Environment) : (environment.settings.map (·.1)).Nodup :=
  environment.settings_induction (motive := fun members => (members.map (·.1)).Nodup) List.nodup_nil
    fun _ h _ _ => Setting.nodup_putMember h

theorem exists_mark_of_mem_settings (environment : Environment) :
    ∀ member ∈ environment.settings, ∃ mark ∈ environment.marks, member = (mark.1, .text mark.2) := by
  apply environment.settings_induction (motive := fun members =>
    ∀ member ∈ members, ∃ mark ∈ environment.marks, member = (mark.1, .text mark.2))
  case nil => exact fun _ h => absurd h List.not_mem_nil
  case put =>
    intro members ih mark hmark member h
    rcases Setting.mem_putMember h with rfl | hold
    · exact ⟨mark, hmark, rfl⟩
    · exact ih member hold

theorem find?_marks {slot : Slot} (hslot : slot ∈ Slot.all) (environment : Environment) :
    (environment.marks.reverse.find? fun mark => mark.1 == slot.dotted).map (·.2) = environment.marked? slot := by
  have hmarked : (fun entry : String × String =>
      ((settingName? entry.1).map fun name => (name, entry.2)).any fun mark => mark.1 == slot.dotted) =
      fun entry => decide (slot.IsMarked entry.1) := by
    funext entry
    rw [Bool.eq_iff_iff, decide_eq_true_iff, ← Slot.settingName?_eq_dotted_iff hslot]
    cases settingName? entry.1 with
    | none => simp
    | some name => simp
  rw [marks, ← List.filterMap_reverse, List.find?_filterMap, hmarked, marked?]
  cases hfound : environment.entries.reverse.find? fun entry => slot.IsMarked entry.1 with
  | none => rfl
  | some entry =>
    have hmark : slot.IsMarked entry.1 := by simpa using List.find?_some hfound
    rw [Option.bind_some, (Slot.settingName?_eq_dotted_iff hslot entry.1).2 hmark]
    rfl

/-- each setting that variables give is the one of a slot, or it is apart from it -/
theorem Clear.settings {environment : Environment} (h : environment.Clear) {slot : Slot} (hslot : slot ∈ Slot.all) :
    ∀ member ∈ environment.settings, (∃ value, member = (slot.dotted, .text value)) ∨
      Setting.Apart (Setting.placeOf member.1).1 slot.path := by
  intro member hmember
  obtain ⟨⟨name, value⟩, hmark, rfl⟩ := environment.exists_mark_of_mem_settings member hmember
  exact (h _ hmark slot hslot).imp_left fun hname => ⟨value, by rw [← hname]⟩

/-- of two settings that variables give, one at least is not that of a slot -/
theorem Clear.pairwise {environment : Environment} (h : environment.Clear) {slot : Slot} (hslot : slot ∈ Slot.all) :
    environment.settings.Pairwise fun a b => Setting.PassesBy a slot.path ∨ Setting.PassesBy b slot.path := by
  have hnames : environment.settings.Pairwise fun a b => a.1 ≠ b.1 := List.pairwise_map.1 environment.nodup_settings
  refine hnames.imp_of_mem fun {a b} ha hb hne => ?_
  rcases h.settings hslot a ha with ⟨first, rfl⟩ | hapart
  · rcases h.settings hslot b hb with ⟨second, rfl⟩ | hapart
    · exact absurd rfl hne
    · exact .inr (Setting.passesBy_of_apart hapart)
  · exact .inl (Setting.passesBy_of_apart hapart)

end Environment

/-! ## Layers -/

/-- no two members of a file change what stands at one slot -/
def SlotsSettled (members : List (String × Setting)) : Prop :=
  ∀ slot ∈ Slot.all, members.Pairwise fun a b => Setting.PassesBy a slot.path ∨ Setting.PassesBy b slot.path

/-- tables with plain names are settled: no two have the name of one table -/
theorem slotsSettled_of_isPlain {members : List (String × Setting)} (hnames : (members.map (·.1)).Nodup)
    (hplain : ∀ name ∈ members.map (·.1), Setting.IsPlain name) : SlotsSettled members := by
  intro slot _
  have hother : ∀ member ∈ members, member.1 ≠ slot.table → Setting.PassesBy member slot.path := by
    intro member hmember hname
    refine Setting.passesBy_of_apart ?_
    rw [Setting.placeOf_of_isPlain (hplain member.1 (List.mem_map_of_mem hmember))]
    simp [Setting.Apart, Slot.path, hname, Ne.symm hname]
  refine (List.pairwise_map.1 hnames).imp_of_mem fun {a b} ha hb hne => ?_
  by_cases hname : a.1 = slot.table
  · exact .inr (hother b hb fun hb => hne (hname.trans hb.symm))
  · exact .inl (hother a ha hname)

namespace SettingsLibrary

variable (library : SettingsLibrary)

/-- the settings of a file by themselves, of which there are none without a file; a file may not be of its format -/
def fileTree? (file : Option (String × String)) : Option Setting :=
  (library.members? file).map fun members => Setting.addAll members (.table [])

theorem members?_toml (text : String) : library.members? (some (".toml", text)) = Toml.read? text := rfl

/-- the settings of a file by themselves are those that stand in it, if its tables have plain names -/
theorem fileTree?_of_read? {text : String} {members : List (String × Setting)} (h : Toml.read? text = some members)
    (hplain : ∀ member ∈ members, Setting.IsPlain member.1) :
    library.fileTree? (some (".toml", text)) = some (.table members) := by
  rw [fileTree?, members?_toml, h, Option.map_some, Setting.addAll_eq (Toml.read?_once h) hplain]

/-- the variables with the mark come before the settings of the file, in whatever order both are set -/
theorem at?_settingTree {environment : Environment} (hclear : environment.Clear) {members : List (String × Setting)}
    (hsettled : SlotsSettled members) {slot : Slot} (hslot : slot ∈ Slot.all) :
    (library.settingTree environment members).at? slot.path =
      ((environment.marked? slot).map Setting.text <|> (Setting.addAll members (.table [])).at? slot.path) := by
  have hfile : (Setting.addAll (library.fileOrder.of members) (.table [])).at? slot.path =
      (Setting.addAll members (.table [])).at? slot.path :=
    (Setting.at?_addAll_perm (library.fileOrder.perm members).symm (hsettled slot hslot) rfl).symm
  have hvariables := Setting.at?_addAll_perm (library.variableOrder.perm environment.settings).symm
    (hclear.pairwise hslot) hfile.symm
  rw [settingTree, ← hvariables,
    Setting.at?_addAll (Slot.placeOf_dotted slot hslot) environment.nodup_settings (hclear.settings hslot),
    environment.member?_settings, ← Environment.find?_marks hslot, Option.map_map]
  rfl

end SettingsLibrary

/-- a name that stands for no place where attempts can be kept -/
def Backend.IsUnknown (name : String) : Prop :=
  Text.lowercase (String.ofList (Text.trim name.toList)) ∉ ["mongo", "mongodb", "memory"]

theorem Backend.parse_eq_error_iff {name : String} :
    (∃ fault, Backend.parse name = .error fault) ↔ Backend.IsUnknown name := by
  simp only [Backend.parse, Backend.IsUnknown]
  generalize Text.lowercase (String.ofList (Text.trim name.toList)) = lower
  by_cases hdatabase : lower = "mongo" ∨ lower = "mongodb"
  · simp only [hdatabase, ite_true]
    rcases hdatabase with rfl | rfl <;> simp
  · by_cases hmemory : lower = "memory"
    · simp [hmemory]
    · simp [hmemory, not_or.1 hdatabase]

theorem isPlainYes_iff (word : String) :
    isPlainYes word = true ↔ word = "1" ∨ word.toList.map Char.toLower = "true".toList := by
  have hlower : word.toLower.toList = word.toList.map Char.toLower := String.toList_map
  rw [isPlainYes, Bool.or_eq_true, beq_iff_eq, beq_iff_eq, ← hlower, String.toList_inj]

theorem findSome?_eq_of_mem {α β : Type} {f : α → Option β} {a : α} {list : List α} (ha : a ∈ list)
    (h : ∀ b ∈ list, b ≠ a → f b = none) : list.findSome? f = f a := by
  induction list with
  | nil => exact absurd ha List.not_mem_nil
  | cons b list ih =>
    obtain ⟨hb, hlist⟩ := List.forall_mem_cons.1 h
    rw [List.findSome?_cons]
    by_cases hba : b = a
    · subst hba
      cases hfound : f b with
      | some found => rfl
      | none =>
        refine List.findSome?_eq_none_iff.2 fun c hc => ?_
        by_cases hcb : c = b
        · rw [hcb, hfound]
        · exact hlist c hc hcb
    · rw [hb hba]
      exact ih ((List.mem_cons.1 ha).resolve_left (Ne.symm hba)) hlist

/-- if only the ending of TOML leads to a file, a stage whose name is no path has the file of its name in the
directory of settings, with the ending added where there is no file without it -/
theorem SettingsLibrary.stageFile?_of_plain (library : SettingsLibrary) {tree : FileTree} {stage : String}
    (hslash : '/' ∉ stage.toList) (hname : stage ∉ ["", ".", ".."])
    (halone : ∀ ending ∈ library.endings, ending ≠ ".toml" → tree.withEnding? ending ["config", stage] = none) :
    library.stageFile? tree stage =
      (match tree.text? ["config", stage] with
      | some text => if stage.endsWith ".toml" ∧ stage ≠ ".toml" then some text else none
      | none => tree.text? ["config", stage ++ ".toml"]).map (".toml", ·) := by
  have hsteps : stage.toList.splitOn '/' = [stage.toList] :=
    List.splitOnP_eq_singleton fun c hc => beq_eq_false_iff_ne.2 fun hslash' => hslash (hslash' ▸ hc)
  simp only [List.mem_cons, List.not_mem_nil, or_false, not_or] at hname
  have htrim : FileTree.trimSteps ["config", stage] = ["config", stage] := by
    simp [FileTree.trimSteps, hname]
  have hothers : ∀ ending ∈ library.endings, ending ≠ ".toml" →
      (tree.withEnding? ending ["config", stage]).map (ending, ·) = none := by
    intro ending hending hother
    rw [halone ending hending hother, Option.map_none]
  rw [stageFile?, hsteps, List.map_singleton, String.ofList_toList, findSome?_eq_of_mem library.knowsToml hothers,
    FileTree.withEnding?, htrim]
  cases tree.text? ["config", stage] with
  | none => simp [hname]
  | some text => simp

namespace Settings

/-- the setting that counts: that of the variable with the mark, or else that of the file -/
def chosen? (environment : Environment) (file : Setting) (slot : Slot) : Option Setting :=
  (environment.marked? slot).map Setting.text <|> file.at? slot.path

/-- the setting that counts if it is a text, or else the plain variable -/
def layeredText? (environment : Environment) (file : Setting) (slot : Slot) : Option String :=
  (chosen? environment file slot).bind Setting.text? <|> environment.get? slot.plain

/-- the setting that counts if it is a truth value, or else the plain variable -/
def layeredTruth? (environment : Environment) (file : Setting) (slot : Slot) : Option Bool :=
  (chosen? environment file slot).bind Setting.truth? <|> (environment.get? slot.plain).map isPlainYes

section

variable (library : SettingsLibrary) {environment : Environment} {members : List (String × Setting)}

theorem textFrom?_settingTree (hclear : environment.Clear) (hsettled : SlotsSettled members) (slot : Slot)
    (hslot : slot ∈ Slot.all) :
    textFrom? (library.settingTree environment members) environment slot.path slot.plain =
      layeredText? environment (Setting.addAll members (.table [])) slot := by
  rw [textFrom?, library.at?_settingTree hclear hsettled hslot]
  rfl

theorem truthFrom?_settingTree (hclear : environment.Clear) (hsettled : SlotsSettled members) (slot : Slot)
    (hslot : slot ∈ Slot.all) :
    truthFrom? (library.settingTree environment members) environment slot.path slot.plain =
      layeredTruth? environment (Setting.addAll members (.table [])) slot := by
  rw [truthFrom?, library.at?_settingTree hclear hsettled hslot]
  rfl

theorem backendFrom_settingTree (hclear : environment.Clear) (hsettled : SlotsSettled members) :
    backendFrom (library.settingTree environment members) environment =
      (layeredText? environment (Setting.addAll members (.table [])) .backend).elim (.ok .database) Backend.parse := by
  rw [← textFrom?_settingTree library hclear hsettled .backend (by decide), backendFrom]
  change (match textFrom? _ _ Slot.backend.path Slot.backend.plain with | some name => _ | none => _) = _
  cases textFrom? (library.settingTree environment members) environment Slot.backend.path Slot.backend.plain with
  | none => rfl
  | some name => rw [Option.elim_some]

/-- the settings that layers give, whether or not they may be used -/
def layered (environment : Environment) (file : Setting) (backend : Backend) : Settings where
  databaseUri := (layeredText? environment file .databaseUri).getD "mongodb://localhost:27017/?replicaSet=rs0"
  databaseName := (layeredText? environment file .databaseName).getD "questionengine"
  backend := backend
  address := (layeredText? environment file .address).getD "0.0.0.0:8081"
  credential := (layeredText? environment file .credential).getD defaultCredential
  sendsTraces := (layeredTruth? environment file .sendsTraces).getD false

def ofLayers (environment : Environment) (file : Setting) (stage : String) : Except SettingsFault Settings :=
  ((layeredText? environment file .backend).elim (.ok .database) Backend.parse).bind fun backend =>
    if stage = "prod" ∧ (layered environment file backend).credential = defaultCredential then .error .openCredential
    else .ok (layered environment file backend)

theorem ofTree_settingTree (hclear : environment.Clear) (hsettled : SlotsSettled members) (stage : String) :
    ofTree (library.settingTree environment members) environment stage =
      ofLayers environment (Setting.addAll members (.table [])) stage := by
  have htext := textFrom?_settingTree library hclear hsettled
  have htruth := truthFrom?_settingTree library hclear hsettled .sendsTraces (by decide)
  simp only [ofLayers, layered, ← htext .databaseUri (by decide), ← htext .databaseName (by decide),
    ← htext .address (by decide), ← htext .credential (by decide), ← htruth,
    ← backendFrom_settingTree library hclear hsettled]
  rfl

theorem ofLayers_eq_ok {file : Setting} {stage : String} {settings : Settings}
    (h : ofLayers environment file stage = .ok settings) :
    settings = layered environment file settings.backend ∧
      (layeredText? environment file .backend).elim (.ok .database) Backend.parse = .ok settings.backend := by
  unfold ofLayers at h
  cases hbackend : (layeredText? environment file .backend).elim (.ok .database) Backend.parse with
  | error fault =>
    rw [hbackend] at h
    cases h
  | ok backend =>
    rw [hbackend, Except.bind] at h
    split_ifs at h
    cases h
    exact ⟨rfl, rfl⟩

theorem ofLayers_eq_error_iff {file : Setting} {stage : String} :
    (∃ fault, ofLayers environment file stage = .error fault) ↔
      (∃ name, layeredText? environment file .backend = some name ∧ Backend.IsUnknown name) ∨
        stage = "prod" ∧ (layeredText? environment file .credential).getD defaultCredential = defaultCredential := by
  have hbackend : (∃ name, layeredText? environment file .backend = some name ∧ Backend.IsUnknown name) ↔
      ∃ fault, (layeredText? environment file .backend).elim (.ok .database) Backend.parse = .error fault := by
    cases layeredText? environment file .backend with
    | none => simp
    | some name => simp only [Option.some.injEq, exists_eq_left', Option.elim_some, Backend.parse_eq_error_iff]
  rw [hbackend, ofLayers]
  cases (layeredText? environment file .backend).elim (.ok .database) Backend.parse with
  | error fault => exact iff_of_true ⟨fault, rfl⟩ (.inl ⟨fault, rfl⟩)
  | ok backend =>
    rw [Except.bind]
    split_ifs with hopen
    · exact iff_of_true ⟨_, rfl⟩ (.inr hopen)
    · refine iff_of_false ?_ ?_
      · rintro ⟨fault, ⟨⟩⟩
      · rintro (⟨fault, ⟨⟩⟩ | hother)
        exact hopen hother

end

/-- what is set does not depend on the order in which hashed collections give out their members: no variable with the
mark stands for a path around a setting that is asked for or below it, other than in its own name, and no two members of
the file of the stage change what stands at one of these settings -/
structure Determined (library : SettingsLibrary) (tree : FileTree) (environment : Environment) : Prop where
  clear : environment.Clear
  settled : ∀ members, library.members? (library.stageFile? tree (stageName environment)) = some members →
    SlotsSettled members

theorem load_eq {library : SettingsLibrary} {surroundings : Surroundings} {environment : Environment}
    (hcompleted : surroundings.completed? = some environment)
    (h : Determined library surroundings.tree environment) :
    load library surroundings =
      (library.fileTree? (library.stageFile? surroundings.tree (stageName environment))).elim (.error .badFile)
        fun file => ofLayers environment file (stageName environment) := by
  rw [load, hcompleted, SettingsLibrary.fileTree?]
  cases hmembers : library.members? (library.stageFile? surroundings.tree (stageName environment)) with
  | none => simp only [hmembers]; rfl
  | some members => simp only [hmembers]; exact ofTree_settingTree library h.clear (h.settled members hmembers) _

/-- the file of the installation chooses the stage, and its last line is not well formed; the nearest file goes on -/
def twoFiles : Surroundings where
  environment := ⟨[("APP__METRICS__AUTH", "ops:secret"), ("APP__Telemetry__OTLP_Enabled", "maybe"),
    ("OTEL_ENABLED", "True"), ("MONGO_URI", "plain")]⟩
  tree := ⟨[(["a", "b", ".env"], "APP_ENV=test\nBIND_ADDR=127.0.0.1:80\n"), ([".env"], "APP_ENV=prod\nbad line\n"),
    (["a", "b", "config", "prod.toml"],
      "[database]\nmongo_uri = \"file\"\n[storage]\nbackend = \"Memory\"\n[telemetry]\notlp_enabled = false\n")],
    ["a", "b"]⟩

/-- the variables of `twoFiles` after both files -/
def twoFilesRead : Environment :=
  ⟨twoFiles.environment.entries ++ [("APP_ENV", "prod"), ("BIND_ADDR", "127.0.0.1:80")]⟩

theorem determined_two_files : Determined .toml twoFiles.tree twoFilesRead where
  clear := by decide +kernel
  settled members hmembers := by
    have hnames : (SettingsLibrary.members? .toml (SettingsLibrary.stageFile? .toml twoFiles.tree
        (stageName twoFilesRead))).map (·.map (·.1)) = some ["database", "storage", "telemetry"] := by decide +kernel
    rw [hmembers, Option.map_some, Option.some.injEq] at hnames
    exact slotsSettled_of_isPlain (hnames ▸ by decide) (hnames ▸ by decide +kernel)

/-- variables with the mark have names that differ in more than letter case; none is the name of a table with a setting
that is asked for, and none goes on after the name of such a setting -/
def MarksApart (environment : Environment) : Prop :=
  let names := (environment.entries.map fun entry => (Text.lowercase entry.1).toList).filter "app__".toList.isPrefixOf
  names.Nodup ∧ ∀ name ∈ names, ∀ slot ∈ Slot.all,
    name ≠ ("app__" ++ slot.table).toList ∧ ¬ ("app__" ++ slot.table ++ "__" ++ slot.name ++ "__").toList <+: name

/-- the name of a variable with the mark has a point where others have a double underscore -/
def pointed : Surroundings where
  environment := ⟨[("APP__DATABASE.MONGO_URI", "pointed"), ("MONGO_URI", "plain")]⟩
  tree := ⟨[], ["a", "b"]⟩

end Settings

end AttemptLog
