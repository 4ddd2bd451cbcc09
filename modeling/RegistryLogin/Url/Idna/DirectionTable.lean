/-! Bidirectional classes of assigned code points, as runs. -/

namespace RegistryLogin.Url.Idna

def directionRuns : List String := [
  "BN:9 X:5 BN:e X:5 ON:2 ET:3 ON:5 ES:1 CS:1 ES:1 CS:2 EN:a CS:1 ON:6 L:1a ON:6 L:1a ON:4 BN:6",
  "X:1 BN:1a CS:1 ON:1 ET:4 ON:4 L:1 ON:2 BN:1 ON:2 ET:2 EN:2 ON:1 L:1 ON:3 EN:1 L:1 ON:5 L:17",
  "ON:1 L:1f ON:1 L:1c1 ON:2 L:7 ON:e L:2 ON:e L:5 ON:9 L:1 ON:11 NSM:70 L:4 ON:2 L:8 ON:1 L:5",
  "ON:2 L:1 ON:1 L:6e ON:1 L:8c NSM:7 L:100 ON:5 ET:2 NSM:2d R:1 NSM:1 R:1 NSM:2 R:1 NSM:2 R:1",
  "NSM:9 R:30 AN:6 ON:2 AL:1 ET:2 AL:1 CS:1 AL:1 ON:2 NSM:b AL:30 NSM:15 AN:a ET:1 AN:2 AL:3",
  "NSM:1 AL:65 NSM:7 AN:1 ON:1 NSM:6 AL:2 NSM:2 ON:1 NSM:4 AL:2 EN:a AL:17 NSM:1 AL:1e NSM:1d",
  "AL:59 NSM:b AL:f R:2b NSM:9 R:2 ON:4 R:3 NSM:1 R:18 NSM:4 R:1 NSM:9 R:1 NSM:3 R:1 NSM:7 R:29",
  "NSM:5 R:2 AL:30 AN:8 NSM:8 AL:2a NSM:18 AN:1 NSM:20 L:37 NSM:1 L:1 NSM:1 L:4 NSM:8 L:4 NSM:1",
  "L:3 NSM:7 L:a NSM:2 L:1d NSM:1 L:3a NSM:1 L:4 NSM:6 L:6 NSM:1 L:14 NSM:4 L:c ET:2 L:7 ET:1",
  "L:2 NSM:5 L:39 NSM:2 L:3 NSM:18 L:17 NSM:2 L:3 NSM:1 L:b NSM:2 L:39 NSM:1 L:4 NSM:8 L:4 NSM:3",
  "L:12 NSM:4 L:b ET:8 L:1 NSM:8 L:3a NSM:1 L:2 NSM:1 L:1 NSM:6 L:6 NSM:a L:b NSM:4 L:1c NSM:1",
  "L:3d NSM:1 L:c NSM:3 L:23 ON:6 ET:1 ON:6 NSM:1 L:3 NSM:1 L:37 NSM:1 L:1 NSM:3 L:5 NSM:12 L:a",
  "NSM:4 L:12 ON:7 L:2 NSM:1 L:3a NSM:1 L:f NSM:9 L:d NSM:4 L:1a NSM:2 L:39 NSM:2 L:4 NSM:5 L:7",
  "NSM:1 L:14 NSM:4 L:1b NSM:1 L:48 NSM:5 L:3 NSM:6 L:59 NSM:1 L:2 NSM:b ET:1 L:7 NSM:8 L:62",
  "NSM:1 L:2 NSM:9 L:b NSM:8 L:48 NSM:2 L:1b NSM:1 L:1 NSM:1 L:1 NSM:1 ON:4 L:33 NSM:e L:1 NSM:5",
  "L:1 NSM:2 L:5 NSM:31 L:8 NSM:1 L:66 NSM:4 L:1 NSM:6 L:1 NSM:2 L:2 NSM:2 L:19 NSM:2 L:4 NSM:3",
  "L:10 NSM:4 L:d NSM:1 L:2 NSM:2 L:6 NSM:1 L:f NSM:1 L:2bf NSM:3 L:30 ON:10 L:60 ON:1 L:27f X:1",
  "L:1a ON:5 L:72 NSM:3 L:1d NSM:2 L:1e NSM:e L:12 NSM:e L:34 NSM:2 L:1 NSM:7 L:8 NSM:1 L:2",
  "NSM:b L:7 ET:1 L:1 NSM:3 L:10 ON:1b NSM:3 BN:1 NSM:1 L:75 NSM:2 L:22 NSM:1 L:76 NSM:3 L:4",
  "NSM:2 L:9 NSM:1 L:6 NSM:7 ON:6 L:98 ON:22 L:17 NSM:2 L:2 NSM:3 L:38 NSM:1 L:1 NSM:9 L:1 NSM:1",
  "L:2 NSM:8 L:6 NSM:d L:30 NSM:54 L:30 NSM:1 L:1 NSM:5 L:1 NSM:1 L:5 NSM:1 L:28 NSM:9 L:c NSM:2",
  "L:20 NSM:4 L:2 NSM:2 L:1 NSM:3 L:38 NSM:1 L:1 NSM:2 L:3 NSM:1 L:1 NSM:3 L:3a NSM:8 L:2 NSM:5",
  "L:95 NSM:3 L:1 NSM:d L:1 NSM:7 L:4 NSM:1 L:6 NSM:1 L:3 NSM:2 L:c6 NSM:40 L:1bd ON:1 L:1 ON:3",
  "L:b ON:3 L:d ON:3 L:d ON:5 L:b ON:3 X:b BN:3 L:1 R:1 ON:18 X:7 CS:1 ET:5 ON:f CS:1 ON:1a X:1",
  "BN:6 X:4 BN:6 EN:1 L:3 EN:6 ES:2 ON:3 L:1 EN:a ES:2 ON:4 L:10 ET:30 NSM:30 ON:2 L:1 ON:4 L:1",
  "ON:2 L:a ON:1 L:1 ON:3 L:5 ON:6 L:1 ON:1 L:1 ON:1 L:1 ON:1 L:4 ET:1 L:b ON:2 L:4 ON:5 L:5",
  "ON:4 L:2 ON:10 L:29 ON:89 ES:1 ET:1 ON:122 L:45 ON:1a L:1 ON:f2 EN:14 L:4e ON:1c2 L:1 ON:153",
  "L:100 ON:300 L:e5 ON:6 L:4 NSM:3 L:7 ON:7 L:7f NSM:1 L:60 NSM:20 ON:200 X:1 ON:4 L:3 ON:19",
  "L:9 NSM:4 L:2 ON:1 L:5 ON:2 L:5 ON:4 L:58 NSM:2 ON:2 L:3 ON:1 L:5a ON:1 L:c4 ON:30 L:2d ON:3",
  "L:30 ON:10 L:1c ON:3 L:32 ON:f L:c ON:4 L:a7 ON:4 L:63 ON:2 L:1f ON:1 L:19c0 ON:40 L:5690",
  "ON:40 L:13d ON:3 L:5f NSM:4 ON:1 NSM:a ON:2 L:1e NSM:2 L:50 NSM:2 L:e ON:22 L:66 ON:1 L:79",
  "NSM:1 L:3 NSM:1 L:4 NSM:1 L:19 NSM:2 L:1 ON:4 NSM:4 L:8 ET:8 L:34 ON:c L:44 NSM:a L:12 NSM:12",
  "L:d NSM:1 L:26 NSM:8 L:19 NSM:b L:2e NSM:3 L:30 NSM:1 L:2 NSM:4 L:2 NSM:2 L:27 NSM:1 L:43",
  "NSM:6 L:2 NSM:2 L:2 NSM:b L:3 NSM:1 L:8 NSM:1 L:2f NSM:1 L:33 NSM:1 L:1 NSM:3 L:2 NSM:2 L:5",
  "NSM:2 L:1 NSM:1 L:2a NSM:2 L:8 NSM:b L:69 ON:6 L:75 NSM:1 L:2 NSM:1 L:4 NSM:3 L:4f2d R:1",
  "NSM:1 R:a ES:1 R:26 AL:1ee ON:12 AL:7f ON:21 AL:d ON:3 NSM:10 ON:10 NSM:10 ON:20 CS:1 ON:1",
  "CS:2 ON:1 CS:1 ON:9 ET:1 ON:2 ES:2 ON:5 ET:2 ON:5 AL:8f BN:2 ON:2 ET:3 ON:5 ES:1 CS:1 ES:1",
  "CS:2 EN:a CS:1 ON:6 L:1a ON:6 L:1a ON:b L:7a ET:2 ON:3 ET:3 ON:18 L:101 ON:1 L:3e ON:4d L:3",
  "ON:40 L:2d NSM:83 L:60 NSM:1 EN:1f L:76 NSM:a L:480 R:11f ON:1 R:e1 NSM:f R:28 NSM:8 R:a5",
  "NSM:6 R:4e ON:7 R:1c0 AL:24 NSM:c AN:150 R:2b NSM:2 R:50 NSM:3 R:30 AL:16 NSM:b AL:1f R:12",
  "NSM:4 R:7a L:1 NSM:1 L:36 NSM:f L:b ON:14 L:a NSM:1 L:2 NSM:2 L:a NSM:3 L:31 NSM:4 L:2 NSM:2",
  "L:7 NSM:b L:33 NSM:3 L:24 NSM:5 L:1 NSM:9 L:3d NSM:1 L:c NSM:2 L:34 NSM:9 L:a NSM:4 L:2 NSM:1",
  "L:5f NSM:3 L:2 NSM:1 L:1 NSM:2 L:6 NSM:1 L:2 NSM:3f L:5f NSM:1 L:3 NSM:d L:10 NSM:2 L:39",
  "NSM:2 L:3 NSM:1 L:25 NSM:9a L:38 NSM:8 L:2 NSM:3 L:1 NSM:1 L:17 NSM:1 L:54 NSM:6 L:1 NSM:1",
  "L:4 NSM:2 L:1 NSM:2 L:ee NSM:6 L:4 NSM:2 L:1 NSM:2 L:1b NSM:24 L:33 NSM:8 L:2 NSM:1 L:1 NSM:2",
  "L:1f ON:20 L:2b NSM:1 L:1 NSM:1 L:2 NSM:6 L:1 NSM:1 L:65 NSM:3 L:2 NSM:4 L:1 NSM:9 L:ff NSM:9",
  "L:1 NSM:2 L:100 NSM:2 L:1 NSM:1 L:4 NSM:1 L:90 NSM:8 L:4 NSM:1 L:20 NSM:6 L:2 NSM:2 L:28",
  "NSM:6 L:2 NSM:4 L:8 NSM:9 L:1 NSM:6 L:2 NSM:3 L:2e NSM:d L:1 NSM:2 L:196 NSM:e L:54 NSM:17",
  "L:1 NSM:7 L:1 NSM:2 L:1 NSM:4b L:31 NSM:15 L:1 NSM:9 L:40 NSM:3 L:2 NSM:1 L:1 NSM:1 L:15b",
  "NSM:2 L:b NSM:2 L:34 NSM:8 L:2 NSM:1 L:1 NSM:1 L:92 ON:8 ET:4 ON:1e L:1441 NSM:1 L:6 NSM:fb9",
  "L:26f0 NSM:5 L:3b NSM:7 L:418 NSM:1 L:3f NSM:4 L:4f ON:1 L:1 NSM:c L:4cad NSM:2 L:1 BN:1260",
  "NSM:50 L:217 NSM:3 L:9 BN:8 NSM:8 L:2 NSM:7 L:1e NSM:4 L:3b ON:59 NSM:3 ON:7b L:40 ON:60",
  "L:37b ON:1 L:39 ON:1 L:39 ON:1 L:39 ON:1 L:39 ON:1 L:a EN:32 L:200 NSM:37 L:4 NSM:32 L:8",
  "NSM:1 L:e NSM:1 L:16 NSM:465 L:100 NSM:30 L:5f NSM:71 L:30 NSM:7 L:177 NSM:12 L:2c NSM:4 L:f",
  "ET:1d1 L:1c NSM:4 L:310 R:d0 NSM:30 R:44 NSM:7 R:326 AL:27f ON:210 EN:b ON:5 L:1f ON:1 L:3a",
  "ON:6 L:3d ON:39 L:7a ON:990 EN:410 L:c0001 BN:ff NSM:ff00 L:20000"]

end RegistryLogin.Url.Idna
