import CrossShader.Naga.Binding

/-!
Any sequence of operations on one compiler. Modules and validation records are named by their
place among those that came into being.
-/
namespace CrossShader.Naga

inductive Step where
  | parse (source dialect stage : Text) (defines : Table Text)
  | construct (program : Program)
  | validate (module : Nat)
  | vouch (module : Nat) (report : Text)
  | generate (module info : Nat) (options : Options) (pipeline : PipelineOptions)
  | version
  deriving Repr

/-- What a step gives. A module comes with the earlier ones that look the same. -/
inductive Yield where
  | module (number : Nat) (program : Program) (alike : List Nat)
  | info (number : Nat) (report : Text)
  | output (t : Text)
  | version (t : Text)
  | unknown
  deriving DecidableEq, Repr

structure History where
  modules : List Module
  infos : List Info
  host : Host
  deriving Repr

namespace History

def openingOn (launcher : Launcher) : History := ⟨[], [], .openingOn launcher []⟩

def opening : History := openingOn .standIn

def alike (modules : List Module) (p : Program) : List Nat :=
  (modules.filter fun m => m.program == p).map (·.number)

def addModule (s : History) (module : Module) (h : Host) : Yield × History :=
  (.module module.number module.program (alike s.modules module.program),
    { s with modules := s.modules ++ [module], host := h })

def addInfo (s : History) (info : Info) (h : Host) : Yield × History :=
  (.info s.infos.length info.report, { s with infos := s.infos ++ [info], host := h })

/-- One step; a step about modules or records that never came into being does nothing. -/
def step (b : Settings) (s : History) : Step → Except Fault Yield × History
  | .parse source dialect stage defines =>
    match b.parse source dialect stage defines s.host with
    | (.error fault, h) => (.error fault, { s with host := h })
    | (.ok module, h) =>
      let (yield, s) := s.addModule module h
      (.ok yield, s)
  | .construct program =>
    let (module, h) := Settings.construct program s.host
    let (yield, s) := s.addModule module h
    (.ok yield, s)
  | .validate number =>
    match s.modules[number]? with
    | none => (.ok .unknown, s)
    | some module =>
      match b.validate module s.host with
      | (.error fault, h) => (.error fault, { s with host := h })
      | (.ok info, h) =>
        let (yield, s) := s.addInfo info h
        (.ok yield, s)
  | .vouch number report =>
    match s.modules[number]? with
    | none => (.ok .unknown, s)
    | some module =>
      let (yield, s) := s.addInfo ⟨module, report⟩ s.host
      (.ok yield, s)
  | .generate number record options pipeline =>
    match s.modules[number]?, s.infos[record]? with
    | some module, some info =>
      match b.generate module info options pipeline s.host with
      | (.error fault, h) => (.error fault, { s with host := h })
      | (.ok output, h) => (.ok (.output output), { s with host := h })
    | _, _ => (.ok .unknown, s)
  | .version =>
    match b.version s.host with
    | (.error fault, h) => (.error fault, { s with host := h })
    | (.ok t, h) => (.ok (.version t), { s with host := h })

structure Turn where
  result : Except Fault Yield
  runs : List Run

def turn (b : Settings) (foreseen : Option Ending) (next : Step) (s : History) : Turn × History :=
  let host := { s.host with endings := foreseen.toList, runs := [] }
  let (result, s) := { s with host := host }.step b next
  (⟨result, s.host.runs⟩, s)

def play (b : Settings) : List (Option Ending × Step) → History → List Turn
  | [], _ => []
  | (foreseen, next) :: rest, s =>
    let (t, s) := turn b foreseen next s
    t :: play b rest s

end History
end CrossShader.Naga
