import RuntimeHandover.Kubelet.Introspection
import RuntimeHandover.Proofs.Url.Base

/-! Where a kubelet answers below a base URL: on the host and port of the base, at the path of the
base with the suffix after it. How many slashes the base ends in makes no difference. -/
namespace RuntimeHandover.Kubelet
open Url

section

variable {before last : List Char}

private theorem withoutEndingSlashes_slashes (text : String) (slashes : Nat) :
    withoutEndingSlashes (text ++ String.ofList (List.replicate slashes '/')) =
      withoutEndingSlashes text := by
  unfold withoutEndingSlashes
  rw [String.toList_append, String.toList_ofList, List.reverse_append, List.reverse_replicate,
    List.dropWhile_append_of_pos fun c inside => beq_iff_eq.mpr (List.eq_of_mem_replicate inside)]

/-- A text that ends in something without slashes stays as it is. -/
private theorem withoutEndingSlashes_ended (some_ : last ≠ []) (plain : '/' ∉ last) :
    withoutEndingSlashes (String.ofList (before ++ last)) = String.ofList (before ++ last) := by
  obtain ⟨init, c, rfl⟩ := List.eq_nil_or_concat last |>.resolve_left some_
  have other : (c == '/') = false := by
    refine beq_eq_false_iff_ne.mpr ?_
    rintro rfl
    exact plain (by simp)
  have kept : (before ++ init.concat c).reverse.dropWhile (· == '/') =
      (before ++ init.concat c).reverse := by
    rw [List.concat_eq_append, ← List.append_assoc, List.reverse_concat,
      List.dropWhile_cons_of_neg (by simp [other])]
  rw [withoutEndingSlashes, String.toList_ofList, kept, List.reverse_reverse]

end

section below

variable {base : Base} {more : List (List Char)}

def below (base : Base) (more : List (List Char)) : Base :=
  {base with segments := base.segments ++ more}

private theorem plain_below (plain : base.Plain) (others : ∀ segment ∈ more, PlainSegment segment) :
    (below base more).Plain where
  port := plain.port
  segments segment inside := (List.mem_append.mp inside).elim (plain.segments segment)
    (others segment)

private theorem path_below (base : Base) (more : List (List Char)) :
    (below base more).path = base.path ++ more.flatMap ('/' :: ·) := List.flatMap_append

private theorem text_below (base : Base) (more : List (List Char)) :
    base.text 0 ++ String.ofList (more.flatMap ('/' :: ·)) = (below base more).text 0 := by
  apply String.toList_injective
  simp only [Base.text, path_below, String.toList_append, String.toList_ofList,
    List.replicate_zero, List.append_nil, List.append_assoc]
  rfl

/-- Of a base URL only its ending slashes go. -/
private theorem withoutEndingSlashes_text (plain : base.Plain) (slashes : Nat) :
    withoutEndingSlashes (base.text slashes) = base.text 0 := by
  have apart : base.text slashes =
      base.text 0 ++ String.ofList (List.replicate slashes '/') := by
    apply String.toList_injective
    simp [Base.text]
  rw [apart, withoutEndingSlashes_slashes, Base.text, List.replicate_zero, List.append_nil]
  rcases List.eq_nil_or_concat base.segments with empty | ⟨init, segment, ended⟩
  · rw [Base.path, empty, List.flatMap_nil, List.append_nil]
    exact withoutEndingSlashes_ended base.origin_some (base.slash_not_mem_origin plain)
  · have segmentPlain : PlainSegment segment := plain.segments segment (by simp [ended])
    have unslashed : '/' ∉ segment := fun inside =>
      ne_of_unreserved (segmentPlain.letters _ inside) (by decide) rfl
    rw [Base.path, ended, List.concat_eq_append, List.flatMap_append, List.flatMap_singleton,
      ← List.singleton_append, ← List.append_assoc, ← List.append_assoc]
    exact withoutEndingSlashes_ended segmentPlain.some unslashed

/-- What stands below a base URL is asked of its server. -/
private theorem address_below (plain : base.Plain) (some_ : more ≠ [])
    (others : ∀ segment ∈ more, PlainSegment segment) (slashes : Nat) :
    address (base.text slashes) (String.ofList (more.flatMap ('/' :: ·))) =
      .ok ((below base more).url ((base.segments ++ more).map String.ofList, [])) := by
  have segments : (below base more).segments ≠ [] := by
    simp [below, some_]
  unfold address
  dsimp only
  rw [withoutEndingSlashes_text plain, text_below, parse_segments (plain_below plain others)
    segments]
  rfl

end below

private theorem plainSegment_of_isAlpha {segment : List Char} (some_ : segment ≠ [])
    (letters : segment.all Char.isAlpha = true) : PlainSegment segment where
  some := some_
  notDot := by
    rintro rfl
    cases letters
  notDots := by
    rintro rfl
    cases letters
  letters c inside := by
    have letter := List.all_eq_true.mp letters c inside
    simp [unreserved, Char.isAlphanum, letter]

/-- The paths that a kubelet is asked for are plain segments. -/
private theorem suffix_segments {suffix : String}
    (asked : suffix = configPath ∨ suffix = statsPath) :
    ∃ more, more ≠ [] ∧ (∀ segment ∈ more, PlainSegment segment) ∧
      suffix = String.ofList (more.flatMap ('/' :: ·)) := by
  rcases asked with rfl | rfl
  · refine ⟨["configz".toList], by simp, fun segment inside => ?_, rfl⟩
    obtain rfl := List.mem_singleton.mp inside
    exact plainSegment_of_isAlpha (by simp) (by simp)
  · refine ⟨["stats".toList, "summary".toList], by simp, fun segment inside => ?_, rfl⟩
    rcases List.mem_pair.mp inside with rfl | rfl
    · exact plainSegment_of_isAlpha (by simp) (by simp)
    · exact plainSegment_of_isAlpha (by simp) (by simp)

/-- A kubelet is asked on the host and port of its base URL, at the path of the base and the
suffix, and for nothing else. Slashes at the end of any base change nothing. -/
theorem address_joined :
    (∀ (base : Base) (slashes : Nat) (suffix : String), base.Plain →
      (suffix = configPath ∨ suffix = statsPath) →
      ∃ url whole, address (base.text slashes) suffix = .ok url ∧
        Url.parse (base.text slashes) = .ok whole ∧
        url.scheme = base.scheme ∧
        url.host = some (.ipv4 base.host.address) ∧
        url.host.map Host.text = some base.host.text ∧
        url.port.or (defaultPort? url.scheme) = some base.effectivePort ∧
        (url.scheme, url.host, url.port) = (whole.scheme, whole.host, whole.port) ∧
        url.username = "" ∧ url.password = "" ∧ url.query = none ∧ url.fragment = none ∧
        url.path.text = String.ofList base.path ++ suffix) ∧
    ∀ (base suffix : String) (slashes : Nat),
      address (base ++ String.ofList (List.replicate slashes '/')) suffix =
        address base suffix := by
  refine ⟨fun base slashes suffix plain asked => ?_, fun base suffix slashes => ?_⟩
  · obtain ⟨more, some_, others, rfl⟩ := suffix_segments asked
    refine ⟨_, _, address_below plain some_ others slashes, parse_text plain slashes, rfl, rfl,
      congrArg some base.host.text_address, Base.url_port (below base more) _, rfl, rfl, rfl, rfl,
      rfl, ?_⟩
    refine (Path.text_segments (base.segments ++ more)).trans ?_
    rw [List.flatMap_append, String.ofList_append]
    rfl
  · unfold address
    rw [withoutEndingSlashes_slashes]

/-- A base with a port, two segments and three slashes at its end. -/
theorem address_joined_proxied :
    ∃ url, address "http://10.0.0.1:10255/api/v1.2///" statsPath = .ok url ∧
      url.host.map Host.text = some "10.0.0.1" ∧
      url.port.or (defaultPort? url.scheme) = some 10255 ∧
      url.path.text = "/api/v1.2/stats/summary" := by
  let base : Base := ⟨false, ⟨10, 0, 0, 1⟩, some "10255".toList, ["api".toList, "v1.2".toList]⟩
  have plain : base.Plain := by
    refine ⟨fun digits given => ?_, fun segment inside => ?_⟩
    · obtain rfl := Option.some.inj given
      exact ⟨by simp, by simp, by decide⟩
    · rcases List.mem_pair.mp inside with rfl | rfl
      · exact plainSegment_of_isAlpha (by simp) (by simp)
      · exact ⟨by simp, by simp, by simp, by simp [unreserved]⟩
  have text : base.text 3 = "http://10.0.0.1:10255/api/v1.2///" := by decide +kernel
  have host : base.host.text = "10.0.0.1" := by decide +kernel
  have port : base.effectivePort = 10255 := by decide +kernel
  have path : String.ofList base.path ++ statsPath = "/api/v1.2/stats/summary" := by decide +kernel
  have joined := address_joined.1 base 3 statsPath plain (.inr rfl)
  rw [text, host, port, path] at joined
  obtain ⟨url, -, told, -, -, -, host, port, -, -, -, -, -, path⟩ := joined
  exact ⟨url, told, host, port, path⟩

end RuntimeHandover.Kubelet
