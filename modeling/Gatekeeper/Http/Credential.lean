import Gatekeeper.Decision.Engine
import Gatekeeper.Http.Request

/-!
# Credentials in requests

The credential of a request is the bearer token of its one authorization header.
-/

namespace Gatekeeper.Credential

open Gatekeeper.Http
open Gatekeeper.Text

def isSpace (character : Char) : Bool :=
  character = ' ' || character = '\t'

def isBearerScheme (scheme : List Char) : Bool :=
  scheme.map lowerAscii = ['b', 'e', 'a', 'r', 'e', 'r']

def ofText (text : String) : Credential :=
  match words isSpace text.toList with
  | [] => .missing
  | [scheme, token] =>
      if isBearerScheme scheme then .bearer (String.ofList token)
      else .malformed
  | _ => .malformed

def ofValues : List HeaderValue → Credential
  | [] => .missing
  | [value] =>
      match value.text? with
      | none => .malformed
      | some text => ofText text
  | _ => .malformed

def ofRequest (request : Request) : Credential :=
  ofValues (request.values "authorization")

theorem ofText_eq_bearer_iff {text token : String} :
    ofText text = .bearer token ↔
      ∃ scheme, words isSpace text.toList = [scheme, token.toList] ∧
        isBearerScheme scheme = true := by
  unfold ofText
  rcases words isSpace text.toList with
    _ | ⟨scheme, _ | ⟨held, _ | ⟨third, rest⟩⟩⟩
  · simp
  · simp
  · cases bearer : isBearerScheme scheme with
    | false => simp [bearer]
    | true =>
        simp only [bearer, if_true, Credential.bearer.injEq, List.cons.injEq,
          and_true]
        constructor
        · rintro rfl
          exact ⟨scheme, ⟨rfl, String.toList_ofList.symm⟩, bearer⟩
        · rintro ⟨_, ⟨rfl, rfl⟩, -⟩
          exact String.ofList_toList
  · simp

/-- A request bears a token when it has one authorization header, and that is
readable and holds the scheme and the token. -/
theorem ofRequest_eq_bearer_iff {request : Request} {token : String} :
    ofRequest request = .bearer token ↔
      ∃ value text scheme, request.values "authorization" = [value] ∧
        value.text? = some text ∧
        words isSpace text.toList = [scheme, token.toList] ∧
        isBearerScheme scheme = true := by
  unfold ofRequest ofValues
  rcases request.values "authorization" with _ | ⟨value, _ | ⟨second, rest⟩⟩
  · simp
  · cases read : value.text? with
    | none =>
        simp only [read, reduceCtorEq, false_iff]
        rintro ⟨_, text, _, ⟨⟩, isText, -⟩
        rw [read] at isText
        cases isText
    | some text =>
        simp only [read, ofText_eq_bearer_iff]
        constructor
        · rintro ⟨scheme, split, bearer⟩
          exact ⟨value, text, scheme, rfl, read, split, bearer⟩
        · rintro ⟨_, other, scheme, ⟨⟩, isText, split, bearer⟩
          rw [read] at isText
          cases isText
          exact ⟨scheme, split, bearer⟩
  · simp

end Gatekeeper.Credential
