import Lapdev.Db.Entities

/-!
# Users and organizations

The rows of users and of the members of organizations, and the roles of members
(`db/entities/src/user.rs`, `db/entities/src/organization_member.rs`).
-/

namespace Lapdev

open RustStd Sql

/-- Source: `db/entities/src/user.rs`. -/
structure User.Model where
  id : Uuid
  deletedAt : Option Timestamp
  email : Option String

/-- Source: `common/src/lib.rs`. -/
inductive UserRole
  | owner
  | admin
  | member
  deriving DecidableEq, Repr

/-- `UserRole::from_str`. -/
def UserRole.parse : String → Option UserRole
  | "Owner" => some owner
  | "Admin" => some admin
  | "Member" => some member
  | _ => none

/-- Source: `db/entities/src/organization_member.rs`. -/
structure OrganizationMember.Model where
  id : Int
  deletedAt : Option Timestamp
  organizationId : Uuid
  userId : Uuid
  role : String

/-- The primary key. -/
instance User.entity : Entity User.Model where
  Conflict r r' := r.id = r'.id
  symm := Eq.symm
  dec := fun _ _ => inferInstance

/-- The primary key, and `organization_member_organization_id_user_id_deleted_at_idx`. -/
instance OrganizationMember.entity : Entity OrganizationMember.Model where
  Conflict r r' := r.id = r'.id ∨
    r.organizationId = r'.organizationId ∧ r.userId = r'.userId ∧ r.deletedAt = r'.deletedAt
  symm := by
    rintro r r' (h | ⟨h₁, h₂, h₃⟩)
    · exact .inl h.symm
    · exact .inr ⟨h₁.symm, h₂.symm, h₃.symm⟩
  dec := fun _ _ => inferInstance

end Lapdev
