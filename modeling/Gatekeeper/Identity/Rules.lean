/-!
# Rules for tokens

What a verified token has to say, and which of its claims names the user.
-/

namespace Gatekeeper

structure TokenRules where
  /-- The issuer that a token has to name, when one is configured. -/
  issuer : Option String
  /-- The audience that a token has to be meant for, when one is configured. -/
  audience : Option String
  usernameClaim : String
  /-- How far clocks may differ, in seconds. -/
  leeway : Nat
deriving DecidableEq, Repr

end Gatekeeper
