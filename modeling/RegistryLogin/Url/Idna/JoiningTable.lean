/-! Joining types of all code points, as runs. -/

namespace RegistryLogin.Url.Idna

def joiningRuns : List String := [
  "U:ad T:1 U:252 T:70 U:113 T:7 U:107 T:2d U:1 T:1 U:1 T:2 U:1 T:2 U:1 T:1 U:48 T:b U:1 T:1 U:3",
  "D:1 U:1 R:4 D:1 R:1 D:1 R:1 D:5 R:4 D:d C:1 D:7 R:1 D:2 T:15 U:e D:2 T:1 R:3 U:1 R:3 D:10",
  "R:12 D:26 R:1 D:2 R:9 D:1 R:1 D:1 R:1 D:2 R:2 U:1 R:1 T:7 U:2 T:6 U:2 T:2 U:1 T:4 R:2 U:a D:3",
  "U:2 D:1 U:f T:1 R:1 T:1 D:3 R:5 D:4 R:1 D:9 R:1 D:1 R:1 D:1 R:1 D:2 R:1 T:1b U:2 R:1 D:b R:3",
  "D:f R:2 D:4 R:1 D:1 R:2 D:3 R:2 D:6 U:26 T:b U:19 D:21 T:9 U:6 C:1 U:2 T:1 U:18 T:4 U:1 T:9",
  "U:1 T:3 U:1 T:5 U:12 R:1 D:5 R:2 D:1 R:1 D:a R:1 D:1 R:3 T:3 U:4 D:1 U:1 D:4 U:1 R:1 D:1 R:2",
  "U:5 R:13 C:3 D:1 U:2 D:5 R:1 D:1 U:7 T:9 D:a R:3 U:1 R:1 D:2 R:2 D:6 R:1 D:f U:1 T:18 U:1",
  "T:20 U:37 T:1 U:1 T:1 U:4 T:8 U:4 T:1 U:3 T:7 U:a T:2 U:1d T:1 U:3a T:1 U:4 T:4 U:8 T:1 U:14",
  "T:2 U:1a T:1 U:2 T:2 U:39 T:1 U:4 T:2 U:4 T:2 U:2 T:3 U:3 T:1 U:1e T:2 U:3 T:1 U:b T:2 U:39",
  "T:1 U:4 T:5 U:1 T:2 U:4 T:1 U:14 T:2 U:16 T:6 U:1 T:1 U:3a T:1 U:2 T:1 U:1 T:4 U:8 T:1 U:7",
  "T:2 U:b T:2 U:1e T:1 U:3d T:1 U:c T:1 U:32 T:1 U:3 T:1 U:37 T:1 U:1 T:3 U:5 T:3 U:1 T:4 U:7",
  "T:2 U:b T:2 U:1d T:1 U:3a T:1 U:2 T:1 U:6 T:1 U:5 T:2 U:14 T:2 U:1c T:2 U:39 T:2 U:4 T:4 U:8",
  "T:1 U:14 T:2 U:1d T:1 U:48 T:1 U:7 T:3 U:1 T:1 U:5a T:1 U:2 T:7 U:c T:8 U:62 T:1 U:2 T:9 U:b",
  "T:7 U:49 T:2 U:1b T:1 U:1 T:1 U:1 T:1 U:37 T:e U:1 T:5 U:1 T:2 U:5 T:b U:1 T:24 U:9 T:1 U:66",
  "T:4 U:1 T:6 U:1 T:2 U:2 T:2 U:19 T:2 U:4 T:3 U:10 T:4 U:d T:1 U:2 T:2 U:6 T:1 U:f T:1 U:2bf",
  "T:3 U:3b2 T:3 U:1d T:2 U:1e T:2 U:1e T:2 U:40 T:2 U:1 T:7 U:8 T:1 U:2 T:b U:9 T:1 U:29 D:1",
  "U:2 C:1 T:3 U:1 T:1 U:10 D:59 U:c T:2 D:22 T:1 D:1 U:75 T:3 U:4 T:2 U:9 T:1 U:6 T:3 U:db T:2",
  "U:2 T:1 U:3a T:1 U:1 T:7 U:1 T:1 U:1 T:1 U:2 T:8 U:6 T:a U:2 T:1 U:30 T:2e U:2 T:c U:14 T:4",
  "U:30 T:1 U:1 T:5 U:1 T:1 U:5 T:1 U:28 T:9 U:c T:2 U:20 T:4 U:2 T:2 U:1 T:3 U:38 T:1 U:1 T:2",
  "U:3 T:1 U:1 T:3 U:3a T:8 U:2 T:2 U:98 T:3 U:1 T:d U:1 T:7 U:4 T:1 U:6 T:1 U:3 T:2 U:c6 T:40",
  "U:20b T:1 U:1 C:1 T:2 U:1a T:5 U:31 T:5 U:5 T:6 U:60 T:21 U:bfe T:3 U:8d T:1 U:60 T:20 U:22a",
  "T:4 U:6b T:2 U:75d4 T:4 U:1 T:a U:20 T:2 U:50 T:2 U:110 T:1 U:3 T:1 U:4 T:1 U:19 T:2 U:5 T:1",
  "U:13 D:32 L:1 U:51 T:2 U:1a T:12 U:d T:1 U:26 T:8 U:19 T:b U:2e T:3 U:30 T:1 U:2 T:4 U:2 T:2",
  "U:27 T:1 U:43 T:6 U:2 T:2 U:2 T:2 U:c T:1 U:8 T:1 U:2f T:1 U:33 T:1 U:1 T:3 U:2 T:2 U:5 T:2",
  "U:1 T:1 U:2a T:2 U:8 T:1 U:ee T:1 U:2 T:1 U:4 T:1 U:4f30 T:1 U:2e1 T:10 U:10 T:10 U:cf T:1",
  "U:f9 T:3 U:201 T:1 U:e2 T:1 U:95 T:5 U:686 T:3 U:1 T:2 U:5 T:4 U:28 T:3 U:4 T:1 U:80 D:5 R:1",
  "U:1 R:1 U:1 R:2 U:2 L:1 R:5 D:4 L:1 D:5 R:1 D:3 R:1 U:2 R:1 T:2 U:4 D:4 R:1 U:90 D:1 R:1 D:1",
  "R:3 D:3 R:1 D:2 R:1 D:1 R:2 D:1 R:1 U:17 R:4 D:2 U:151 L:1 D:21 R:1 D:1 T:4 U:41 T:5 U:13d",
  "T:2 U:15 R:1 D:2 U:1 D:2 U:32 T:6 U:30 D:3 R:1 D:11 U:1 T:b D:3 R:1 U:1b D:4 R:2 D:c T:4 U:2a",
  "D:1 U:1 D:2 R:3 U:1 D:1 R:2 D:2 R:1 D:2 U:1 D:1 R:2 D:1 U:4 R:1 D:1 L:1 U:35 T:1 U:36 T:f",
  "U:29 T:1 U:2 T:2 U:a T:3 U:31 T:4 U:2 T:2 U:7 T:1 U:3d T:3 U:24 T:5 U:1 T:8 U:3e T:1 U:c T:2",
  "U:34 T:9 U:a T:4 U:2 T:1 U:5f T:3 U:2 T:1 U:1 T:2 U:6 T:1 U:2 T:1 U:9d T:1 U:3 T:8 U:15 T:2",
  "U:39 T:2 U:3 T:1 U:25 T:7 U:3 T:5 U:46 T:6 U:d T:1 U:1 T:1 U:1 T:1 U:e T:2 U:55 T:8 U:2 T:3",
  "U:1 T:1 U:17 T:1 U:54 T:6 U:1 T:1 U:4 T:2 U:1 T:2 U:ee T:4 U:6 T:2 U:1 T:2 U:1b T:2 U:55 T:8",
  "U:2 T:1 U:1 T:2 U:6a T:1 U:1 T:1 U:2 T:6 U:1 T:1 U:65 T:1 U:1 T:1 U:2 T:4 U:1 T:5 U:103 T:9",
  "U:1 T:2 U:100 T:2 U:1 T:1 U:4 T:1 U:90 T:4 U:2 T:2 U:4 T:1 U:20 T:a U:28 T:6 U:2 T:4 U:8 T:1",
  "U:9 T:6 U:2 T:3 U:2e T:d U:1 T:2 U:c6 T:1 U:1 T:3 U:1 T:1 U:c9 T:7 U:1 T:6 U:1 T:1 U:52 T:16",
  "U:2 T:7 U:1 T:2 U:1 T:2 U:7a T:6 U:3 T:1 U:1 T:2 U:1 T:7 U:1 T:1 U:48 T:2 U:3 T:1 U:1 T:1",
  "U:15b T:2 U:b T:2 U:34 T:5 U:5 T:1 U:1 T:1 U:17 T:1 U:14d5 T:11 U:6 T:f U:2cc8 T:c U:3 T:3",
  "U:9c0 T:5 U:3b T:7 U:418 T:1 U:3f T:4 U:51 T:1 U:4cb8 T:2 U:1 T:4 U:125c T:2e U:2 T:17 U:220",
  "T:3 U:9 T:10 U:2 T:7 U:1e T:4 U:94 T:3 U:7bb T:37 U:4 T:32 U:8 T:1 U:e T:1 U:16 T:5 U:1 T:f",
  "U:550 T:7 U:1 T:11 U:2 T:7 U:1 T:2 U:1 T:5 U:64 T:1 U:a0 T:7 U:177 T:1 U:3d T:4 U:1fc T:4",
  "U:fe T:2 U:f3 T:1 U:2 T:1 U:7 T:2 U:5 T:1 U:1da T:7 U:29 D:44 T:8 U:c16b5 T:1 U:1e T:60 U:80",
  "T:f0 U:2fe10"]

end RegistryLogin.Url.Idna
