import CrossShader.Library.Scripted
import CrossShader.Service.App

/-!
Requests in a row to one service over one scripted library.
-/
namespace CrossShader.Service

structure Exchange where
  request : HttpRequest
  script : Script

structure ExchangeTrace where
  response : Except Fault Response
  calls : List (Call Nat Nat)
  errors : List Text

def exchange (e : Exchange) (s : Stand) : ExchangeTrace × Stand :=
  let (response, s, calls) :=
    serve Stand.tracked.note (Conversion.convert Stand.tracked) e.request (s.begin e.script)
  let errors := (s.log.filter (·.level == .error)).map (·.message)
  (⟨response, calls, errors⟩, s)

def exchanges : List Exchange → Stand → List ExchangeTrace
  | [], _ => []
  | e :: rest, s =>
    let (trace, s) := exchange e s
    trace :: exchanges rest s

end CrossShader.Service
