import BuildGate.Host.Tools.About

namespace BuildGate.Host

def echoEscapes : Nat → List Char → List UInt8 × Bool
  | 0, _ => ([], false)
  | _ + 1, [] => ([], false)
  | fuel + 1, '\\' :: d :: rest =>
    let more (bs : List UInt8) (after : List Char) : List UInt8 × Bool :=
      let (tail, stop) := echoEscapes fuel after
      (bs ++ tail, stop)
    match d with
    | 'a' => more [7] rest | 'b' => more [8] rest | 'e' => more [27] rest
    | 'f' => more [12] rest | 'n' => more [10] rest | 'r' => more [13] rest
    | 't' => more [9] rest | 'v' => more [11] rest | '\\' => more [92] rest
    | 'c' => ([], true)
    | 'x' =>
      match rest with
      | h :: after =>
        match Shell.hexDigit h with
        | some v =>
          match after with
          | h2 :: after2 =>
            match Shell.hexDigit h2 with
            | some v2 => more [(v * 16 + v2).toUInt8] after2
            | none => more [v.toUInt8] after
          | [] => more [v.toUInt8] after
        | none => more [92, 120] rest
      | [] => more [92, 120] rest
    | '0' =>
      let (v, after) := Shell.octalRun 3 0 rest
      more [(v % 256).toUInt8] after
    | _ =>
      if Shell.isOctal d then
        let (v, after) := Shell.octalRun 3 0 (d :: rest)
        more [(v % 256).toUInt8] after
      else more ([92] ++ Shell.charBytes d) rest
  | fuel + 1, c :: rest =>
    let (tail, stop) := echoEscapes fuel rest
    (Shell.charBytes c ++ tail, stop)

def isEchoOption (a : String) : Bool :=
  match a.toList with
  | '-' :: letters => !letters.isEmpty && letters.all fun c => c == 'n' || c == 'e' || c == 'E'
  | _ => false

def echoTool (c : ToolCall) : ToolRun :=
  match c.args with
  | ["--help"] => aboutRun c "echo" 'h'
  | ["--version"] => aboutRun c "echo" 'v'
  | args =>
    let flags := args.takeWhile isEchoOption
    let words := args.drop flags.length
    let letters := flags.flatMap fun f => (f.drop 1).toString.toList
    let newline := !letters.contains 'n'
    let escapes := letters.foldl (fun e ch => if ch == 'e' then true else if ch == 'E' then false else e) false
    let rec emit : List String → List UInt8
      | [] => if newline then [10] else []
      | w :: rest =>
        if escapes then
          let (bs, stop) := echoEscapes (w.length + 1) w.toList
          if stop then bs
          else bs ++ (if rest.isEmpty then [] else [32]) ++ emit rest
        else textBytes w ++ (if rest.isEmpty then [] else [32]) ++ emit rest
    ToolRun.printing (emit words)

def printfTool (c : ToolCall) : ToolRun :=
  match c.args with
  | ["--help"] => aboutRun c "printf" 'h'
  | ["--version"] => aboutRun c "printf" 'v'
  | args =>
    let args := match args with
      | "--" :: rest => rest
      | _ => args
    match args with
    | [] => usageFailure c "missing operand" 1
    | fmt :: rest =>
      let p := Shell.printf (.program (utf8Locale c.env)) fmt rest
      -- each message goes out after the output written before it
      let messages := p.warnings ++ p.fatal.toList.map (p.out.length, ·)
      let (run, at_) := messages.foldl (fun ((run : ToolRun), (at_ : Nat)) (k, m) =>
        ((run.say ((p.out.drop at_).take (k - at_))).warn (textBytes (c.name ++ ": " ++ m ++ "\n")),
          max at_ k)) ({}, 0)
      { run.say (p.out.drop at_) with status := .exited p.status }

end BuildGate.Host
