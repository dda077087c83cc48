import Dmanager.Go.Strings

/-!
# The `users` table

`users.id` is an `INTEGER PRIMARY KEY AUTOINCREMENT` and `users.username` is `UNIQUE`; both constraints
are fields of `Users`, so a table that breaks them cannot be built.  `seq` is SQLite's own counter for
the table (`sqlite_sequence`), which never hands out an id twice.

The columns `created_at`, `updated_at` and `email` are left out: no modelled function reads them.
-/

namespace Dmanager
namespace Db

open Go

/-- `db.User`. -/
structure User where
  id : Int
  username : GoString
  passwordHash : GoString
  role : GoString
  deriving DecidableEq, Repr

/-- The table, with its two uniqueness constraints. -/
structure Users where
  rows : List User
  seq : Int
  ids_nodup : (rows.map User.id).Nodup
  ids_le_seq : ∀ user ∈ rows, user.id ≤ seq
  usernames_nodup : (rows.map User.username).Nodup

namespace Users

/-- The table after the migrations. -/
def empty : Users := ⟨[], 0, by simp, by simp, by simp⟩

/-- `SELECT COUNT(*) FROM users`. -/
def countUsers (users : Users) : Nat := users.rows.length

/-- `db.CreateUserParams`. -/
structure CreateUserParams where
  username : GoString
  passwordHash : GoString
  role : GoString
  deriving DecidableEq, Repr

/-- `INSERT INTO users (username, password_hash, role) VALUES (?, ?, ?) RETURNING ...`; `none` is the
violation of `UNIQUE (username)`. -/
def createUser (users : Users) (arg : CreateUserParams) : Option (Users × User) :=
  if htaken : arg.username ∈ users.rows.map User.username then
    none
  else
    let user : User := ⟨users.seq + 1, arg.username, arg.passwordHash, arg.role⟩
    some
      ({ rows := users.rows ++ [user]
         seq := users.seq + 1
         ids_nodup := by
           rw [List.map_append, List.map_singleton, List.nodup_append]
           refine ⟨users.ids_nodup, by simp, ?_⟩
           intro old hold fresh hfresh heq
           obtain ⟨row, hrow, rfl⟩ := List.mem_map.mp hold
           have hle := users.ids_le_seq row hrow
           have hid : row.id = users.seq + 1 := heq.trans (List.mem_singleton.mp hfresh)
           omega
         ids_le_seq := by
           intro row hrow
           rcases List.mem_append.mp hrow with hold | hnew
           · have hle := users.ids_le_seq row hold
             omega
           · rw [List.mem_singleton.mp hnew]
         usernames_nodup := by
           rw [List.map_append, List.map_singleton, List.nodup_append]
           refine ⟨users.usernames_nodup, by simp, ?_⟩
           intro old hold fresh hfresh heq
           have hname : old = arg.username := heq.trans (List.mem_singleton.mp hfresh)
           exact htaken (hname ▸ hold) }, user)

/-- `SELECT ... FROM users WHERE id = ? LIMIT 1`; `none` is `sql.ErrNoRows`. -/
def getUser (users : Users) (id : Int) : Option User :=
  users.rows.find? fun user => decide (user.id = id)

/-- `SELECT ... FROM users WHERE username = ? LIMIT 1`; `none` is `sql.ErrNoRows`. -/
def getUserByUsername (users : Users) (username : GoString) : Option User :=
  users.rows.find? fun user => decide (user.username = username)

theorem getUser_eq_some {users : Users} {id : Int} {user : User} (hget : users.getUser id = some user) :
    user ∈ users.rows ∧ user.id = id :=
  ⟨List.mem_of_find?_eq_some hget, by simpa using List.find?_some hget⟩

/-- What an insert that was not refused adds. -/
theorem createUser_eq_some {users next : Users} {arg : CreateUserParams} {user : User}
    (hcreate : users.createUser arg = some (next, user)) :
    next.rows = users.rows ++ [user] ∧ user.username = arg.username ∧
      arg.username ∉ users.rows.map User.username := by
  unfold createUser at hcreate
  split at hcreate
  · cases hcreate
  · rename_i hfree
    cases hcreate
    exact ⟨rfl, rfl, hfree⟩

/-- The row it adds. -/
theorem createUser_row {users next : Users} {arg : CreateUserParams} {user : User}
    (hcreate : users.createUser arg = some (next, user)) :
    user = ⟨users.seq + 1, arg.username, arg.passwordHash, arg.role⟩ := by
  unfold createUser at hcreate
  split at hcreate
  · cases hcreate
  · cases hcreate
    rfl

/-- An insert is refused exactly when the name is taken. -/
theorem createUser_eq_none_iff {users : Users} {arg : CreateUserParams} :
    users.createUser arg = none ↔ ∃ user ∈ users.rows, user.username = arg.username := by
  unfold createUser
  split
  · rename_i htaken
    simpa using htaken
  · rename_i hfree
    simpa using hfree

end Users

end Db
end Dmanager
