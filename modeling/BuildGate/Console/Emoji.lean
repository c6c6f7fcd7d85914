import BuildGate.Text.Classes
import BuildGate.Console.EmojiCodes

namespace BuildGate.Console

def emojiCodes : List (String × String) :=
  (emojiCodeText.splitOn "\n").filterMap fun line =>
    match line.splitOn " " with
    | [code, e] => some (code, e)
    | _ => none

def codeLower (s : String) : String :=
  String.ofList (s.toList.map fun c =>
    if ('A' ≤ c && c ≤ 'Z') || (0xC0 ≤ c.toNat && c.toNat ≤ 0xDE && c.toNat != 0xD7) then
      Char.ofNat (c.toNat + 32)
    else c)

def presentationOf (variant : String) : String :=
  if variant == "text" then String.singleton (Char.ofNat 0xFE0E)
  else String.singleton (Char.ofNat 0xFE0F)

def codeAfter (name : List Char) : Nat → List Char → Option (List Char × Option String × List Char)
  | 0, _ => none
  | _, [] => none
  | fuel + 1, cs@(c :: rest) =>
    if cs.take 7 == "-emoji:".toList then some (name, some "emoji", cs.drop 7)
    else if cs.take 6 == "-text:".toList then some (name, some "text", cs.drop 6)
    else if c == ':' then some (name, none, rest)
    else if Text.isBlank c then none
    else codeAfter (name ++ [c]) fuel rest

def replaceCodesFrom : Nat → List Char → List Char
  | 0, cs => cs
  | _, [] => []
  | fuel + 1, c :: rest =>
    if c == ':' then
      match codeAfter [] (rest.length + 1) rest with
      | some (name, variant, after) =>
        let code := rest.take (rest.length - after.length)
        let shown := match emojiCodes.lookup (codeLower (String.ofList name)) with
          | some e => (e ++ (variant.map presentationOf).getD "").toList
          | none => c :: code
        shown ++ replaceCodesFrom fuel after
      | none => c :: replaceCodesFrom fuel rest
    else c :: replaceCodesFrom fuel rest

def replaceEmoji (cs : List Char) : List Char := replaceCodesFrom (cs.length + 1) cs

end BuildGate.Console
