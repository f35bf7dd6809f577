import RuntimeHandover.Failure
import RuntimeHandover.Text.Quoted
import RuntimeHandover.Url.Parser

/-! Where a kubelet answers: a base URL and the path of what is asked for. -/
namespace RuntimeHandover.Kubelet
open Text

def withoutEndingSlashes (text : String) : String :=
  String.ofList (text.toList.reverse.dropWhile (· == '/')).reverse

def address (base suffix : String) : Except Failure Url :=
  let text := withoutEndingSlashes base ++ suffix
  (Url.parse text).mapError fun fault =>
    ⟨.transport, s!"invalid URL {quoted text}: {fault.message}"⟩

end RuntimeHandover.Kubelet
