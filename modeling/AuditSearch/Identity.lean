import AuditSearch.Literal

/-!
Identities, the people behind audited events, and the attributes they are looked up by.
-/
namespace AuditSearch

structure Identity where
  id : Int64
  login : String
  firstName : String
  lastName : String
  email : String
  roles : List String
  deriving DecidableEq, Repr

inductive Attribute where
  | id
  | login
  | firstName
  | lastName
  | email
  deriving DecidableEq, Repr

namespace Attribute

def all : List Attribute :=
  [id, login, firstName, lastName, email]

def name : Attribute → String
  | id => "id"
  | login => "login"
  | firstName => "first_name"
  | lastName => "last_name"
  | email => "email"

end Attribute

namespace Identity

def value (i : Identity) : Attribute → Literal
  | .id => .integer i.id
  | .login => .text i.login
  | .firstName => .text i.firstName
  | .lastName => .text i.lastName
  | .email => .text i.email

end Identity

end AuditSearch
