import DeployWizard.Text.Ranges

set_option autoImplicit false

namespace DeployWizard.Text

def combiningClasses : List (Nat × Ranges) := [
    (1, .ofGaps "334 5 199b 1 d 7 3e9 2 4 3 a 2 3 2 e94d 1 60b6 5 51a9 1 14c8 3"),
    (6, .ofGaps "16ff0 2"),
    (7, .ofGaps "
      93c 1 7f 1 7f 1 7f 1 7f 1 ff 1 7f 1 37a 1 afc 1 b1 1 50 1 8d7b 1 6706 1 b8 1 56 1 6b 1 b2 1
      51 2 109 1 7c 1 fc 1 f6 1 182 1 108 1 3fe 1 cc07 1"),
    (8, .ofGaps "3099 2"),
    (9, .ofGaps "
      94d 1 7f 1 7f 1 7f 1 7f 1 7f 1 7f 1 7f 1 6d 2 10 1 7c 1 6f 1 7f 1 c9 1 b4 2 6d9 2 1e 1 9d 1
      28d 1 e3 1 65 2 46 2 118b 1 7a86 1 25 1 97 1 8e 1 6c 1 135 1 f6 1 5e51 1 606 1 29 1 e 1 39 1
      79 2 8b 1 74 1 b4 1 62 1 80 3 71 1 7f 1 fc 1 7f 1 76 1 74 1 10d 1 103 2 a1 1 53 1 12 1 51 1
      1a5 1 104 2 51 1 1a9 2 41ec 1"),
    (10, .ofGaps "5b0 1"),
    (11, .ofGaps "5b1 1"),
    (12, .ofGaps "5b2 1"),
    (13, .ofGaps "5b3 1"),
    (14, .ofGaps "5b4 1"),
    (15, .ofGaps "5b5 1"),
    (16, .ofGaps "5b6 1"),
    (17, .ofGaps "5b7 1"),
    (18, .ofGaps "5b8 1 e 1"),
    (19, .ofGaps "5b9 2"),
    (20, .ofGaps "5bb 1"),
    (21, .ofGaps "5bc 1"),
    (22, .ofGaps "5bd 1"),
    (23, .ofGaps "5bf 1"),
    (24, .ofGaps "5c1 1"),
    (25, .ofGaps "5c2 1"),
    (26, .ofGaps "fb1e 1"),
    (27, .ofGaps "64b 1 2a4 1"),
    (28, .ofGaps "64c 1 2a4 1"),
    (29, .ofGaps "64d 1 2a4 1"),
    (30, .ofGaps "618 1 35 1"),
    (31, .ofGaps "619 1 35 1"),
    (32, .ofGaps "61a 1 35 1"),
    (33, .ofGaps "651 1"),
    (34, .ofGaps "652 1"),
    (35, .ofGaps "670 1"),
    (36, .ofGaps "711 1"),
    (84, .ofGaps "c55 1"),
    (91, .ofGaps "c56 1"),
    (103, .ofGaps "e38 2"),
    (107, .ofGaps "e48 4"),
    (118, .ofGaps "eb8 2"),
    (122, .ofGaps "ec8 4"),
    (129, .ofGaps "f71 1"),
    (130, .ofGaps "f72 1 7 4 2 1"),
    (132, .ofGaps "f74 1"),
    (202, .ofGaps "321 2 4 2 1aa7 1"),
    (214, .ofGaps "1dce 1"),
    (216, .ofGaps "31b 1 c1d 1 1c22b 2 7 5"),
    (218, .ofGaps "1dfa 1 122f 1"),
    (220, .ofGaps "
      316 4 2 5 2 4 2 b 5 4 a 3 3 2 4 4 2 2 236 1 4 1 4 1 6 6 2 1 1a 1 8f 2 5 1 2 1 83 1 6 1 2 1
      43 1 2 1 2 3 1 2 1 1 3 1 1 1 1 1 1 1 a9 1 a 1 5b 3 3d 3 33 5 f 1 2 1 2 1 3 3 6 1 2 2 57 1
      5c5 2 1b 1 1 1 8e 1 c6 1 8ad 1 dc 1 66 1 35 6 2 1 1 2 2 2 5 1 12 1 8 1 85 1 168 5 2 4 d 1 d4
      1 7 1 4 1 29 1 3 1 1 1 2e8 1 3 4 883b 3 186 1 5372 7 3cf 1 e2 1 72c 1 2c 1 ab 1 413 2 1 3 46
      2 3 1 1 4 32 1 1 1 c1f5 8 7 2 1362 1 100 1 2e0 7"),
    (222, .ofGaps "59a 1 12 1 138b 1 16f3 1"),
    (224, .ofGaps "302e 2"),
    (226, .ofGaps "1d16d 1"),
    (228, .ofGaps "5ae 1 12fa 1 54d 2 1232 1"),
    (230, .ofGaps "
      300 15 28 8 1 1 3 3 3 3 4 1 3 1 7 d 113 5 10a 4 1 3 2 6 6 2 1 2 2 1 14 1 4b 8 3b 2 2 5 1 2
      77 7 2 4 1 1 2 2 2 2 43 1 1 2 1 2 3 1 2 1 1 3 1 1 1 1 1 1 1 2 a0 7 1 1 22 4 1 9 1 3 1 5 69 2
      3 4 2a 5 5 e 2 2 1 2 1 3 6 3 1 2 2 5 51 1 1 2 a9 1 583 2 2 2 3d5 3 47d 1 15c 1 dc 1 5d 8 33
      5 6 2 4 2 2 5 1 12 3 6 1 4 80 1 1 7 15c 3 7 2 4 1 13 1 3 2 c6 2 1 7 1 2 4 25 5 1 2 1 2d1 2 2
      4 3 2 4 1 5 1 1 1 6 1 bfe 3 ee 20 786f 1 4 a 20 2 50 2 1ee 12 1be 1 1 2 3 2 5 2 1 1 535e 7 7
      2 546 5 694 1 28 1 ac 1 23e 4 41 5 13d 2 9b 3 1 1 35 1 1 1 17b 3 263 7 3 5 e9 1 56d1 7 664e
      5 20 4 94 3 dbb 7 1 11 2 7 1 2 1 5 64 1 a0 7 177 1 3d 4 1ff 1 fe 1 f4 1 2 1 7 2 5 1 24e 6"),
    (232, .ofGaps "315 1 4 1 3d 1 1a9d 1 1235 1 1b4bf 2"),
    (233, .ofGaps "35c 1 2 1 2 1 1a99 1"),
    (234, .ofGaps "35d 2 1 2 1789 1 2e1 1"),
    (240, .ofGaps "345 1")]

def combiningClass (c : Char) : Nat :=
  match combiningClasses.find? fun (_, members) => members.contains c with
  | some (k, _) => k
  | none => 0

def viramaClass : Nat := 9

end DeployWizard.Text
