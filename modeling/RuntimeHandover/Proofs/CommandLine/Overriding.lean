import RuntimeHandover.Proofs.CommandLine.Gates
import RuntimeHandover.Proofs.Text.Words
import Mathlib.Data.List.TakeWhile

/-! What the flags of a command line mean, whatever else stands beside them. Of the arguments
that bind a key the last one counts, so settings depend on the last bindings alone; each flag
decides its own field and the file, or the default, every other one. -/
namespace RuntimeHandover.CommandLine
open Bootstrap Files Settings Text

def Dashed (dashed key : List Char) : Prop :=
  ∃ dashes, dashed = List.replicate dashes '-' ++ key ∧ key.head? ≠ some '-'

/-- How an argument binds a key: by a value after its first equals sign, or to `true` when it
has none and two dashes begin it. -/
inductive Binds (argument key value : String) : Prop
  | written {before : List Char} (split : argument.toList = before ++ '=' :: value.toList)
      (first : '=' ∉ before) (named : Dashed before key.toList)
  | bare (signless : '=' ∉ argument.toList) (begins : ['-', '-'] <+: argument.toList)
      (named : Dashed argument.toList key.toList) (means : value = "true")

def LastBinding (arguments : List String) (key value : String) : Prop :=
  ∃ earlier argument later, arguments = earlier ++ argument :: later ∧
    Binds argument key value ∧ ∀ other ∈ later, ∀ value, ¬ Binds other key value

private theorem dashed_iff {dashed : List Char} {key : String} :
    Dashed dashed key.toList ↔ withoutDashes dashed = key := by
  constructor
  · rintro ⟨dashes, rfl, bare⟩
    have stops : key.toList.dropWhile (· = '-') = key.toList := by
      cases spelled : key.toList with
      | nil => rfl
      | cons c rest =>
        have other : c ≠ '-' := by
          rintro rfl
          exact bare (by rw [spelled]; rfl)
        exact List.dropWhile_cons_of_neg (by simpa using other)
    rw [withoutDashes, List.dropWhile_append_of_pos, stops, String.ofList_toList]
    intro c among
    exact decide_eq_true (List.eq_of_mem_replicate among)
  · rintro rfl
    rw [withoutDashes, String.toList_ofList]
    refine ⟨(dashed.takeWhile (· = '-')).length, ?_, ?_⟩
    · conv_lhs => rw [← List.takeWhile_append_dropWhile (p := (· = '-')) (l := dashed)]
      congr 1
      refine List.eq_replicate_of_mem ?_
      intro c among
      simpa using List.mem_takeWhile_imp among
    · intro begins
      have stops := List.head?_dropWhile_not (· = '-') dashed
      rw [begins] at stops
      exact absurd stops (by decide)

/-- Only the first equals sign parts a text. -/
private theorem dropWhile_sign {text before after : List Char} :
    text = before ++ '=' :: after ∧ '=' ∉ before ↔
      text.takeWhile (· ≠ '=') = before ∧ text.dropWhile (· ≠ '=') = '=' :: after := by
  constructor
  · rintro ⟨rfl, first⟩
    have others : ∀ c ∈ before, decide (c ≠ '=') = true := by
      intro c among
      refine decide_eq_true ?_
      rintro rfl
      exact first among
    rw [List.takeWhile_append_of_pos others, List.dropWhile_append_of_pos others]
    exact ⟨List.append_nil before, rfl⟩
  · rintro ⟨rfl, left⟩
    constructor
    · rw [← left, List.takeWhile_append_dropWhile]
    · intro among
      have other := List.mem_takeWhile_imp among
      simp at other

private theorem dropWhile_sign_eq_nil {text : List Char} :
    text.dropWhile (· ≠ '=') = [] ↔ '=' ∉ text := by
  rw [List.dropWhile_eq_nil_iff]
  constructor
  · intro others among
    simpa using others '=' among
  · intro signless c among
    refine decide_eq_true ?_
    rintro rfl
    exact signless among

private theorem flag?_eq_some_iff {argument key value : String} :
    flag? argument = some (key, value) ↔ Binds argument key value := by
  constructor
  · intro read
    unfold flag? at read
    dsimp only at read
    split at read
    · next sign after left =>
      obtain ⟨rfl, rfl⟩ := Prod.mk.inj (Option.some.inj read)
      have signed : sign = '=' := by
        have stops := List.head?_dropWhile_not (· ≠ '=') argument.toList
        rw [left] at stops
        simpa using stops
      rw [signed] at left
      obtain ⟨split, first⟩ := dropWhile_sign.mpr ⟨rfl, left⟩
      exact .written (by rw [String.toList_ofList, ← split]) first (dashed_iff.mpr rfl)
    · next left =>
      split at read
      · next begins =>
        obtain ⟨rfl, rfl⟩ := Prod.mk.inj (Option.some.inj read)
        exact .bare (dropWhile_sign_eq_nil.mp left) (List.isPrefixOf_iff_prefix.mp begins)
          (dashed_iff.mpr rfl) rfl
      · exact absurd read.symm (Option.some_ne_none _)
  · rintro (⟨split, first, named⟩ | ⟨signless, begins, named, rfl⟩)
    · obtain ⟨taken, left⟩ := dropWhile_sign.mp ⟨split, first⟩
      unfold flag?
      dsimp only
      rw [left, taken]
      dsimp only
      rw [dashed_iff.mp named, String.ofList_toList]
    · unfold flag?
      dsimp only
      rw [dropWhile_sign_eq_nil.mpr signless]
      dsimp only
      rw [if_pos (List.isPrefixOf_iff_prefix.mpr begins), dashed_iff.mp named]

/-- Of the arguments that bind a key, the last one counts. -/
private theorem get?_eq_some_iff {arguments : List String} {key value : String} :
    (Flags.ofArguments arguments).get? key = some value ↔ LastBinding arguments key value := by
  rw [Flags.get?, List.lookup_eq_some_iff]
  constructor
  · rintro ⟨after, before, given, unbound⟩
    rw [List.reverse_eq_append_iff, List.reverse_cons, List.append_assoc, List.singleton_append]
      at given
    obtain ⟨earlier, rest, rfl, -, read⟩ := List.filterMap_eq_append_iff.mp given
    obtain ⟨silent, argument, later, rfl, -, bound, left⟩ := List.filterMap_eq_cons_iff.mp read
    refine ⟨earlier ++ silent, argument, later, (List.append_assoc ..).symm,
      flag?_eq_some_iff.mp bound, ?_⟩
    intro other among again binds
    have listed : (key, again) ∈ List.filterMap flag? later :=
      List.mem_filterMap.mpr ⟨other, among, flag?_eq_some_iff.mpr binds⟩
    rw [left, List.mem_reverse] at listed
    exact absurd (unbound _ listed) (by simp)
  · rintro ⟨earlier, argument, later, rfl, bound, unbound⟩
    refine ⟨(later.filterMap flag?).reverse, (earlier.filterMap flag?).reverse, ?_, ?_⟩
    · rw [Flags.ofArguments, List.filterMap_append,
        List.filterMap_cons_some (flag?_eq_some_iff.mpr bound), List.reverse_append,
        List.reverse_cons, List.append_assoc]
      rfl
    · rintro ⟨name, again⟩ listed
      obtain ⟨other, among, read⟩ := List.mem_filterMap.mp (List.mem_reverse.mp listed)
      refine bne_iff_ne.mpr ?_
      rintro rfl
      exact unbound other among again (flag?_eq_some_iff.mp read)

example : (Flags.ofArguments ["--log-level", "log-level=a=b", "-log-level", "---log-level=",
    "--level=c"]).get? "log-level" = some "" := by decide +kernel

private theorem LastBinding.unique {arguments : List String} {key one other : String}
    (binds : LastBinding arguments key one) (again : LastBinding arguments key other) :
    one = other :=
  Option.some.inj ((get?_eq_some_iff.mpr binds).symm.trans (get?_eq_some_iff.mpr again))

def names (key argument : String) : Bool := (flag? argument).any fun flag => key == flag.1

def settingKeys : List String :=
  ["settings", "configz-url", "stats-url", "saved-config", "proxy-path", "proxy-args",
    "proxy-socket", "log-level", "log-file", "json-logs", "verify-liveness", "secure"]

section settings

variable {σ : Type} (host : Host σ) {flags others : Flags}

end settings

section fields

variable {α : Type} {arguments : List String} {key : String}

end fields

section loading

variable {σ : Type} (host : Host σ) (arguments : List String) (s : σ)

variable {arguments s}

end loading

structure Carries (settings : Settings) (options : Options) (config : Config) : Prop where
  configzBaseUrl : config.configzBaseUrl = settings.kubelet.configzBaseUrl
  statsBaseUrl : config.statsBaseUrl = settings.kubelet.statsBaseUrl
  savedConfigPath : config.savedConfigPath = .ofString settings.savedConfigPath
  proxyPath : config.proxyPath = settings.proxy.path
  proxyArgs : config.proxyArgs = settings.proxy.args
  proxySocketPath : config.proxySocketPath = .ofString settings.proxy.socketPath
  insecureSkipVerify :
    options.introspection.insecureSkipVerify = settings.kubelet.insecureSkipVerify
  timeout : options.introspection.timeout = seconds settings.kubelet.timeoutSecs
  socketTimeout : options.readiness.timeout = milliseconds settings.proxy.socketTimeoutMs
  pollInterval : options.readiness.pollInterval = milliseconds settings.proxy.socketPollIntervalMs
  verifyProxyLiveness : options.verifyProxyLiveness = settings.verifyProxyLiveness

end RuntimeHandover.CommandLine
