import RegistryLogin.Text.Outline

namespace RegistryLogin

open Text

structure ClientOptions where
  timeout : Option Nat
  userAgent : Option String
deriving DecidableEq

namespace ClientOptions

def default : ClientOptions := ⟨none, none⟩

def timeText (milliseconds : Nat) : String :=
  if milliseconds = 0 then "0ns"
  else if milliseconds < 1000 then toString milliseconds ++ "ms"
  else
    let rest := milliseconds % 1000
    let digits := (Nat.toDigits 10 (1000 + rest)).tail
    let fraction := (digits.reverse.dropWhile (· = '0')).reverse
    toString (milliseconds / 1000) ++ (if rest = 0 then "" else "." ++ String.ofList fraction) ++ "s"

def outline (options : ClientOptions) : Outline :=
  .record "RegistryClientOptions"
    [("timeout", .ofOption (fun t => .word (timeText t)) options.timeout),
      ("user_agent", .ofOption .text options.userAgent)]

def isUsableName (name : String) : Bool :=
  name.toList.all fun c => c == '\t' || (0x20 ≤ c.toNat && c.toNat ≠ 0x7F)

end ClientOptions

end RegistryLogin
