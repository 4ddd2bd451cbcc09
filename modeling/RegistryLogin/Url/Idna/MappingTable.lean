/-! How each code point of a domain is mapped, as runs. -/

namespace RegistryLogin.Url.Idna

def mappingRuns : List String := [
  "v41 m1a+20 v25 x20 =20 v7 =20.308 v1 =61 v2 i1 v1 =20.304 v2 m2-80 =20.301 =3bc v2 =20.327",
  "=31 =6f v1 =31.2044.34 =31.2044.32 =33.2044.34 v1 m17+20 v1 m7+20 v21 p18 =69.307 v1 =69.6a",
  "=69.6a p2 v1 p3 =6c.b7 =6c.b7 p4 =2bc.6e p17 =ff p3 =73 v1 =253 p2 =254 =188 v1 m2+cd =18c v2",
  "=1dd =259 =25b =192 v1 =260 =263 v1 =269 =268 =199 v3 =26f =272 v1 =275 p3 =280 =1a8 v1 =283",
  "v2 =1ad v1 =288 =1b0 v1 m2+d9 p2 =292 =1b9 v3 =1bd v7 s3=64.17e s3=6c.6a s3=6e.6a p8 v1 p9 v1",
  "s3=64.7a =1f5 v1 =195 =1bf p14 =19e v1 p9 v6 =2c65 =23c v1 =19a =2c66 v2 =242 v1 =180 =289",
  "=28c p5 v60 =68 =266 =6a =72 =279 =27b =281 =77 =79 v1f =20.306 =20.307 =20.30a =20.328",
  "=20.303 =20.30b v2 =263 =6c =73 =78 =295 v5b m2-40 v1 =313 =308.301 =3b9 v9 i1 v20 p2 =2b9 v1",
  "=377 v1 x2 =20.3b9 v3 =3b =3f3 x4 =20.301 =20.308.301 =3ac =b7 m3+25 x1 =3cc x1 m2+3f v1",
  "m11+20 x1 m9+20 v23 =3d7 =3b2 =3b8 =3c5 =3cd =3cb =3c6 =3c0 v1 pc =3ba =3c1 =3c3 v1 =3b8 =3b5",
  "v1 =3f8 v1 =3c3 =3fb v2 m3-82 m10+50 m20+20 v30 p11 v8 p1b =4cf p7 v1 p30 x1 m26+30 x2 v2e",
  "=565.582 v3 x2 v3 x1 v37 x8 v1b x4 v6 x11 v16 x1 v58 =627.674 =648.674 =6c7.674 =64a.674 v64",
  "x1 v30 x2 v3b x2 v65 xe v3b x2 v31 x2 vf x1 v1c x2 v1 x1 vb x5 v20 x7 v4b x1 v75 =915.93c",
  "=916.93c =917.93c =91c.93c =921.93c =922.93c =92b.93c =92f.93c v24 x1 v8 x2 v2 x2 v16 x1 v7",
  "x1 v1 x3 v4 x2 v9 x2 v2 x2 v4 x8 v1 x4 =9a1.9bc =9a2.9bc x1 =9af.9bc v4 x2 v19 x2 v3 x1 v6 x4",
  "v2 x2 v16 x1 v7 x1 v1 =a32.a3c x1 v1 =a38.a3c x1 v2 x2 v1 x1 v5 x4 v2 x2 v3 x3 v1 x7 =a16.a3c",
  "=a17.a3c =a1c.a3c v1 x1 =a2b.a3c x7 v11 xa v3 x1 v9 x1 v3 x1 v16 x1 v7 x1 v2 x1 v5 x2 va x1",
  "v3 x1 v3 x2 v1 xf v4 x2 vc x7 v7 x1 v3 x1 v8 x2 v2 x2 v16 x1 v7 x1 v2 x1 v5 x2 v9 x2 v2 x2 v3",
  "x7 v3 x4 =b21.b3c =b22.b3c x1 v5 x2 v12 xa v2 x1 v6 x3 v3 x1 v4 x3 v2 x1 v1 x1 v2 x3 v2 x3 v3",
  "x3 vc x4 v5 x3 v3 x1 v4 x2 v1 x6 v1 xe v15 x5 vd x1 v3 x1 v17 x1 v10 x2 v9 x1 v3 x1 v4 x7 v2",
  "x1 v3 x1 v2 x2 v4 x2 va x7 v16 x1 v3 x1 v17 x1 va x1 v5 x2 v9 x1 v3 x1 v4 x7 v2 x5 v3 x1 v4",
  "x2 va x1 v3 xc vd x1 v3 x1 v33 x1 v3 x1 v6 x4 v10 x2 v1a x1 v3 x1 v12 x3 v18 x1 v9 x1 v1 x2",
  "v7 x3 v1 x4 v6 x1 v1 x1 v8 x6 va x2 v3 xc v32 =e4d.e32 v7 x4 v1d x25 v2 x1 v1 x1 v5 x1 v18 x1",
  "v1 x1 vc =ecd.eb2 va x2 v5 x1 v1 x1 v7 x1 va x2 =eab.e99 =eab.ea1 v2 x20 vc =f0b v36 =f42.fb7",
  "v4 x1 v4 =f4c.fb7 v4 =f51.fb7 v4 =f56.fb7 v4 =f5b.fb7 vc =f40.fb5 v3 x4 v2 =f71.f72 v1",
  "=f71.f74 =fb2.f80 =fb2.f71.f80 =fb3.f80 =fb3.f71.f80 v7 =f71.f80 v11 =f92.fb7 v4 x1 v4",
  "=f9c.fb7 v4 =fa1.fb7 v4 =fa6.fb7 v4 =fab.fb7 vc =f90.fb5 v3 x1 vf x1 vd x25 va0 m26+1c60 x1",
  "=2d27 x5 =2d2d x2 v2c =10dc v62 i2 ve8 x1 v4 x2 v7 x1 v1 x1 v4 x2 v29 x1 v4 x2 v21 x1 v4 x2",
  "v7 x1 v1 x1 v4 x2 vf x1 v39 x1 v4 x2 v43 x2 v20 x3 v1a x6 v56 x2 m6-8 x2 v280 x1 v1c x3 v59",
  "x7 v16 x9 v18 x9 v14 xc vd x1 v3 x1 v2 xc v34 i2 v28 x2 va x6 va x6 vb i5 va x6 v59 x7 v2b x5",
  "v46 xa v1f x1 vc x4 vc x4 v1 x3 v2a x2 v5 xb v2c x4 v1a x6 vb x3 v3e x2 v41 x1 v1d x2 vb x6",
  "va x6 ve x2 v2e x2 vc x14 v4d x1 va6 x8 v3c x3 vf x3 v33 =432 =434 =43e m2-1842 =442 =44a",
  "=463 =a64b =1c8a v1 x5 m2b-bc0 x2 m3-bc0 v8 x8 v2b x5 v2c =61 =e6 =62 v1 m2-1ccc =1dd m8-1ccc",
  "v1 =6f =223 =70 =72 m2-1ccc =77 =61 m2-1af4 =1d02 =62 m2-1ce4 =259 m2-1af0 =67 v1 =6b =6d",
  "=14b =6f =254 m2-3e =70 m2-1ce3 =1d1d =26f =76 =1d25 m3-19ab m2-199a =69 =72 m2-1cef m2-19b4",
  "=3c1 m2-19a3 vd =43d v22 =252 =63 =255 =f0 =25c =66 =25f =261 =265 m3-1b3c =1d7b =29d =26d",
  "=1d85 =29f =271 =270 m4-1b3c =278 m2-1b31 =1ab m2-1b2d =1d1c m2-1b2e =7a m3-1b2c =3b8 v40 p4b",
  "v4 =61.2be =1e61 v2 =df v1 p30 v8 m8-8 v6 x2 m6-8 x2 v8 m8-8 v8 m8-8 v6 x2 m6-8 x2 v8 x1",
  "=1f51 x1 =1f53 x1 =1f55 x1 =1f57 v8 m8-8 v1 =3ac v1 =3ad v1 =3ae v1 =3af v1 =3cc v1 =3cd v1",
  "=3ce x2 =1f00.3b9 =1f01.3b9 =1f02.3b9 =1f03.3b9 =1f04.3b9 =1f05.3b9 =1f06.3b9 =1f07.3b9",
  "=1f00.3b9 =1f01.3b9 =1f02.3b9 =1f03.3b9 =1f04.3b9 =1f05.3b9 =1f06.3b9 =1f07.3b9 =1f20.3b9",
  "=1f21.3b9 =1f22.3b9 =1f23.3b9 =1f24.3b9 =1f25.3b9 =1f26.3b9 =1f27.3b9 =1f20.3b9 =1f21.3b9",
  "=1f22.3b9 =1f23.3b9 =1f24.3b9 =1f25.3b9 =1f26.3b9 =1f27.3b9 =1f60.3b9 =1f61.3b9 =1f62.3b9",
  "=1f63.3b9 =1f64.3b9 =1f65.3b9 =1f66.3b9 =1f67.3b9 =1f60.3b9 =1f61.3b9 =1f62.3b9 =1f63.3b9",
  "=1f64.3b9 =1f65.3b9 =1f66.3b9 =1f67.3b9 v2 =1f70.3b9 =3b1.3b9 =3ac.3b9 x1 v1 =1fb6.3b9 m2-8",
  "=1f70 =3ac =3b1.3b9 =20.313 =3b9 =20.313 =20.342 =20.308.342 =1f74.3b9 =3b7.3b9 =3ae.3b9 x1",
  "v1 =1fc6.3b9 =1f72 =3ad =1f74 =3ae =3b7.3b9 =20.313.300 =20.313.301 =20.313.342 v3 =390 x2 v2",
  "m2-8 =1f76 =3af x1 =20.314.300 =20.314.301 =20.314.342 v3 =3b0 v4 m2-8 =1f7a =3cd =1fe5",
  "=20.308.300 =20.308.301 =60 x2 =1f7c.3b9 =3c9.3b9 =3ce.3b9 x1 v1 =1ff6.3b9 =1f78 =3cc =1f7c",
  "=3ce =3c9.3b9 =20.301 =20.314 x1 sb=20 i1 v2 x2 v1 =2010 v5 =20.333 vc x3 v1 x7 =20 v3",
  "=2032.2032 =2032.2032.2032 v1 =2035.2035 =2035.2035.2035 v4 =21.21 v1 =20.305 v8 =3f.3f",
  "=3f.21 =21.3f vd =2032.2032.2032.2032 v7 =20 i5 x5 i6 =30 =69 x2 m6-2040 =2b =2212 =3d",
  "m2-2055 =6e ma-2050 =2b =2212 =3d m2-2065 x1 =61 =65 =6f =78 =259 =68 m4-202b =70 m2-2028 x3",
  "v8 =72.73 v19 xe v21 xf =61.2f.63 =61.2f.73 =63 =b0.63 v1 =63.2f.6f =63.2f.75 =25b v1 =b0.66",
  "m2-20a3 s3=68 =127 =69 =69 =6c =6c v1 =6e =6e.6f v2 m3-20a9 =72 =72 v2 =73.6d =74.65.6c",
  "=74.6d v1 =7a v1 =3c9 v1 =7a v1 =6b =e5 m2-20ca v1 =65 m2-20cb =214e =6d =6f m4-1b65 =69 v1",
  "=66.61.78 =3c0 =3b3 =3b3 =3c0 =2211 v4 =64 m2-20e2 m2-20df v6 =31.2044.37 =31.2044.39",
  "=31.2044.31.30 =31.2044.33 =32.2044.33 =31.2044.35 =32.2044.35 =33.2044.35 =34.2044.35",
  "=31.2044.36 =35.2044.36 =31.2044.38 =33.2044.38 =35.2044.38 =37.2044.38 =31.2044 =69 =69.69",
  "=69.69.69 =69.76 =76 =76.69 =76.69.69 =76.69.69.69 =69.78 =78 =78.69 =78.69.69 =6c m2-210a",
  "=6d =69 =69.69 =69.69.69 =69.76 =76 =76.69 =76.69.69 =76.69.69.69 =69.78 =78 =78.69 =78.69.69",
  "=6c m2-211a =6d v3 =2184 v5 =30.2044.33 v2 x4 v9c =222b.222b =222b.222b.222b v1 =222e.222e",
  "=222e.222e.222e vf8 m2+cdf vff x16 vb x15 m9-242f =31.30 =31.31 =31.32 =31.33 =31.34 =31.35",
  "=31.36 =31.37 =31.38 =31.39 =32.30 =28.31.29 =28.32.29 =28.33.29 =28.34.29 =28.35.29",
  "=28.36.29 =28.37.29 =28.38.29 =28.39.29 =28.31.30.29 =28.31.31.29 =28.31.32.29 =28.31.33.29",
  "=28.31.34.29 =28.31.35.29 =28.31.36.29 =28.31.37.29 =28.31.38.29 =28.31.39.29 =28.32.30.29",
  "x14 =28.61.29 =28.62.29 =28.63.29 =28.64.29 =28.65.29 =28.66.29 =28.67.29 =28.68.29 =28.69.29",
  "=28.6a.29 =28.6b.29 =28.6c.29 =28.6d.29 =28.6e.29 =28.6f.29 =28.70.29 =28.71.29 =28.72.29",
  "=28.73.29 =28.74.29 =28.75.29 =28.76.29 =28.77.29 =28.78.29 =28.79.29 =28.7a.29 m1a-2455",
  "m1a-246f =30 v521 =222b.222b.222b.222b v67 =3a.3a.3d =3d.3d =3d.3d.3d v65 =2add.338 v97 x2",
  "v8a m30+30 v30 =2c61 v1 =26b =1d7d =27d v2 p3 =251 =271 =250 =252 v1 =2c73 v2 =2c76 v6 =6a",
  "=76 m2-2a3f p32 v7 p2 v3 =2cf3 v1 x5 v2d x1 v1 x5 v1 x2 v38 x7 =2d61 v1 xe v18 x9 v7 x1 v7 x1",
  "v7 x1 v7 x1 v7 x1 v7 x1 v7 x1 v7 x1 v7e x22 v1a x1 v4 =6bcd v53 =9f9f xc =4e00 =4e28 =4e36",
  "=4e3f =4e59 =4e85 =4e8c =4ea0 =4eba =513f =5165 =516b =5182 =5196 =51ab =51e0 =51f5 =5200",
  "=529b =52f9 =5315 =531a =5338 =5341 =535c =5369 =5382 =53b6 =53c8 =53e3 =56d7 =571f =58eb",
  "=5902 =590a =5915 =5927 =5973 =5b50 =5b80 =5bf8 =5c0f =5c22 =5c38 =5c6e =5c71 =5ddb =5de5",
  "=5df1 =5dfe =5e72 =5e7a =5e7f =5ef4 =5efe =5f0b =5f13 =5f50 =5f61 =5f73 =5fc3 =6208 =6236",
  "=624b =652f =6534 =6587 =6597 =65a4 =65b9 =65e0 =65e5 =66f0 =6708 =6728 =6b20 =6b62 =6b79",
  "=6bb3 =6bcb =6bd4 =6bdb =6c0f =6c14 =6c34 =706b =722a =7236 =723b =723f =7247 =7259 =725b",
  "=72ac =7384 =7389 =74dc =74e6 =7518 =751f =7528 =7530 =758b =7592 =7676 =767d =76ae =76bf",
  "=76ee =77db =77e2 =77f3 =793a =79b8 =79be =7a74 =7acb =7af9 =7c73 =7cf8 =7f36 =7f51 =7f8a",
  "=7fbd =8001 =800c =8012 =8033 =807f =8089 =81e3 =81ea =81f3 =81fc =820c =821b =821f =826e",
  "=8272 =8278 =864d =866b =8840 =884c =8863 =897e =898b =89d2 =8a00 =8c37 =8c46 =8c55 =8c78",
  "=8c9d =8d64 =8d70 =8db3 =8eab =8eca =8f9b =8fb0 =8fb5 =9091 =9149 =91c6 =91cc =91d1 =9577",
  "=9580 =961c =96b6 =96b9 =96e8 =9751 =975e =9762 =9769 =97cb =97ed =97f3 =9801 =98a8 =98db",
  "=98df =9996 =9999 =99ac =9aa8 =9ad8 =9adf =9b25 =9b2f =9b32 =9b3c =9b5a =9ce5 =9e75 =9e7f",
  "=9ea5 =9ebb =9ec3 =9ecd =9ed1 =9ef9 =9efd =9f0e =9f13 =9f20 =9f3b =9f4a =9f52 =9f8d =9f9c",
  "=9fa0 x2a =20 v1 =2e v33 =3012 v1 =5341 m2+230b v5 x1 v56 x2 v2 =20.3099 =20.309a v2",
  "=3088.308a v5f =30b3.30c8 x5 v2b x1 m2-2031 =11aa =1102 m2-1f89 m3-2034 m6-1f8a =111a m3-203b",
  "=1121 ma-203c m15-1fee i1 m2-2051 m2-1fa0 =11cc =11ce =11d3 =11d7 =11d9 =111c =11dd =11df",
  "m2-2054 =1120 m2-2052 =1127 =1129 m5-204d =1132 =1136 =1140 =1147 =114c m2-1f91 m3-202d",
  "m2-2003 =1188 m2-1ff9 =1194 =119e =11a1 x1 v2 =4e00 =4e8c =4e09 =56db =4e0a =4e2d =4e0b =7532",
  "=4e59 =4e19 =4e01 =5929 =5730 =4eba v46 xa v10 =28.1100.29 =28.1102.29 =28.1103.29",
  "=28.1105.29 =28.1106.29 =28.1107.29 =28.1109.29 =28.110b.29 =28.110c.29 =28.110e.29",
  "=28.110f.29 =28.1110.29 =28.1111.29 =28.1112.29 =28.ac00.29 =28.b098.29 =28.b2e4.29",
  "=28.b77c.29 =28.b9c8.29 =28.bc14.29 =28.c0ac.29 =28.c544.29 =28.c790.29 =28.cc28.29",
  "=28.ce74.29 =28.d0c0.29 =28.d30c.29 =28.d558.29 =28.c8fc.29 =28.c624.c804.29 =28.c624.d6c4.29",
  "x1 =28.4e00.29 =28.4e8c.29 =28.4e09.29 =28.56db.29 =28.4e94.29 =28.516d.29 =28.4e03.29",
  "=28.516b.29 =28.4e5d.29 =28.5341.29 =28.6708.29 =28.706b.29 =28.6c34.29 =28.6728.29",
  "=28.91d1.29 =28.571f.29 =28.65e5.29 =28.682a.29 =28.6709.29 =28.793e.29 =28.540d.29",
  "=28.7279.29 =28.8ca1.29 =28.795d.29 =28.52b4.29 =28.4ee3.29 =28.547c.29 =28.5b66.29",
  "=28.76e3.29 =28.4f01.29 =28.8cc7.29 =28.5354.29 =28.796d.29 =28.4f11.29 =28.81ea.29",
  "=28.81f3.29 =554f =5e7c =6587 =7b8f v8 =70.74.65 =32.31 =32.32 =32.33 =32.34 =32.35 =32.36",
  "=32.37 =32.38 =32.39 =33.30 =33.31 =33.32 =33.33 =33.34 =33.35 =1100 m2-215f m3-215e =1109",
  "m2-215c m5-215b =ac00 =b098 =b2e4 =b77c =b9c8 =bc14 =c0ac =c544 =c790 =cc28 =ce74 =d0c0 =d30c",
  "=d558 =cc38.ace0 =c8fc.c758 =c6b0 v1 =4e00 =4e8c =4e09 =56db =4e94 =516d =4e03 =516b =4e5d",
  "=5341 =6708 =706b =6c34 =6728 =91d1 =571f =65e5 =682a =6709 =793e =540d =7279 =8ca1 =795d",
  "=52b4 =79d8 =7537 =5973 =9069 =512a =5370 =6ce8 =9805 =4f11 =5199 =6b63 =4e0a =4e2d =4e0b",
  "=5de6 =53f3 =533b =5b97 =5b66 =76e3 =4f01 =8cc7 =5354 =591c =33.36 =33.37 =33.38 =33.39",
  "=34.30 =34.31 =34.32 =34.33 =34.34 =34.35 =34.36 =34.37 =34.38 =34.39 =35.30 =31.6708",
  "=32.6708 =33.6708 =34.6708 =35.6708 =36.6708 =37.6708 =38.6708 =39.6708 =31.30.6708",
  "=31.31.6708 =31.32.6708 =68.67 =65.72.67 =65.76 =6c.74.64 =30a2 =30a4 =30a6 =30a8 m2-22a",
  "=30ad =30af =30b1 =30b3 =30b5 =30b7 =30b9 =30bb =30bd =30bf =30c1 =30c4 =30c6 =30c8 m6-21a",
  "=30d2 =30d5 =30d8 =30db m5-210 =30e4 =30e6 m6-20d m4-20c =4ee4.548c =30a2.30d1.30fc.30c8",
  "=30a2.30eb.30d5.30a1 =30a2.30f3.30da.30a2 =30a2.30fc.30eb =30a4.30cb.30f3.30b0",
  "=30a4.30f3.30c1 =30a6.30a9.30f3 =30a8.30b9.30af.30fc.30c9 =30a8.30fc.30ab.30fc",
  "=30aa.30f3.30b9 =30aa.30fc.30e0 =30ab.30a4.30ea =30ab.30e9.30c3.30c8 =30ab.30ed.30ea.30fc",
  "=30ac.30ed.30f3 =30ac.30f3.30de =30ae.30ac =30ae.30cb.30fc =30ad.30e5.30ea.30fc",
  "=30ae.30eb.30c0.30fc =30ad.30ed =30ad.30ed.30b0.30e9.30e0 =30ad.30ed.30e1.30fc.30c8.30eb",
  "=30ad.30ed.30ef.30c3.30c8 =30b0.30e9.30e0 =30b0.30e9.30e0.30c8.30f3 =30af.30eb.30bc.30a4.30ed",
  "=30af.30ed.30fc.30cd =30b1.30fc.30b9 =30b3.30eb.30ca =30b3.30fc.30dd =30b5.30a4.30af.30eb",
  "=30b5.30f3.30c1.30fc.30e0 =30b7.30ea.30f3.30b0 =30bb.30f3.30c1 =30bb.30f3.30c8",
  "=30c0.30fc.30b9 =30c7.30b7 =30c9.30eb =30c8.30f3 =30ca.30ce =30ce.30c3.30c8 =30cf.30a4.30c4",
  "=30d1.30fc.30bb.30f3.30c8 =30d1.30fc.30c4 =30d0.30fc.30ec.30eb =30d4.30a2.30b9.30c8.30eb",
  "=30d4.30af.30eb =30d4.30b3 =30d3.30eb =30d5.30a1.30e9.30c3.30c9 =30d5.30a3.30fc.30c8",
  "=30d6.30c3.30b7.30a7.30eb =30d5.30e9.30f3 =30d8.30af.30bf.30fc.30eb =30da.30bd",
  "=30da.30cb.30d2 =30d8.30eb.30c4 =30da.30f3.30b9 =30da.30fc.30b8 =30d9.30fc.30bf",
  "=30dd.30a4.30f3.30c8 =30dc.30eb.30c8 =30db.30f3 =30dd.30f3.30c9 =30db.30fc.30eb",
  "=30db.30fc.30f3 =30de.30a4.30af.30ed =30de.30a4.30eb =30de.30c3.30cf =30de.30eb.30af",
  "=30de.30f3.30b7.30e7.30f3 =30df.30af.30ed.30f3 =30df.30ea =30df.30ea.30d0.30fc.30eb",
  "=30e1.30ac =30e1.30ac.30c8.30f3 =30e1.30fc.30c8.30eb =30e4.30fc.30c9 =30e4.30fc.30eb",
  "=30e6.30a2.30f3 =30ea.30c3.30c8.30eb =30ea.30e9 =30eb.30d4.30fc =30eb.30fc.30d6.30eb",
  "=30ec.30e0 =30ec.30f3.30c8.30b2.30f3 =30ef.30c3.30c8 =30.70b9 =31.70b9 =32.70b9 =33.70b9",
  "=34.70b9 =35.70b9 =36.70b9 =37.70b9 =38.70b9 =39.70b9 =31.30.70b9 =31.31.70b9 =31.32.70b9",
  "=31.33.70b9 =31.34.70b9 =31.35.70b9 =31.36.70b9 =31.37.70b9 =31.38.70b9 =31.39.70b9",
  "=32.30.70b9 =32.31.70b9 =32.32.70b9 =32.33.70b9 =32.34.70b9 =68.70.61 =64.61 =61.75 =62.61.72",
  "=6f.76 =70.63 =64.6d =64.6d.32 =64.6d.33 =69.75 =5e73.6210 =662d.548c =5927.6b63 =660e.6cbb",
  "=682a.5f0f.4f1a.793e =70.61 =6e.61 =3bc.61 =6d.61 =6b.61 =6b.62 =6d.62 =67.62 =63.61.6c",
  "=6b.63.61.6c =70.66 =6e.66 =3bc.66 =3bc.67 =6d.67 =6b.67 =68.7a =6b.68.7a =6d.68.7a =67.68.7a",
  "=74.68.7a =3bc.6c =6d.6c =64.6c =6b.6c =66.6d =6e.6d =3bc.6d =6d.6d =63.6d =6b.6d =6d.6d.32",
  "=63.6d.32 =6d.32 =6b.6d.32 =6d.6d.33 =63.6d.33 =6d.33 =6b.6d.33 =6d.2215.73 =6d.2215.73.32",
  "=70.61 =6b.70.61 =6d.70.61 =67.70.61 =72.61.64 =72.61.64.2215.73 =72.61.64.2215.73.32 =70.73",
  "=6e.73 =3bc.73 =6d.73 =70.76 =6e.76 =3bc.76 =6d.76 =6b.76 =6d.76 =70.77 =6e.77 =3bc.77 =6d.77",
  "=6b.77 =6d.77 =6b.3c9 =6d.3c9 x1 =62.71 =63.63 =63.64 =63.2215.6b.67 x1 =64.62 =67.79 =68.61",
  "=68.70 =69.6e =6b.6b =6b.6d =6b.74 =6c.6d =6c.6e =6c.6f.67 =6c.78 =6d.62 =6d.69.6c =6d.6f.6c",
  "=70.68 x1 =70.70.6d =70.72 =73.72 =73.76 =77.62 =76.2215.6d =61.2215.6d =31.65e5 =32.65e5",
  "=33.65e5 =34.65e5 =35.65e5 =36.65e5 =37.65e5 =38.65e5 =39.65e5 =31.30.65e5 =31.31.65e5",
  "=31.32.65e5 =31.33.65e5 =31.34.65e5 =31.35.65e5 =31.36.65e5 =31.37.65e5 =31.38.65e5",
  "=31.39.65e5 =32.30.65e5 =32.31.65e5 =32.32.65e5 =32.33.65e5 =32.34.65e5 =32.35.65e5",
  "=32.36.65e5 =32.37.65e5 =32.38.65e5 =32.39.65e5 =33.30.65e5 =33.31.65e5 =67.61.6c v708d x3",
  "v37 x9 v15c x14 p17 v12 pe =44a =44c v5a x8 v22 p7 v2 p1f =a76f v8 p2 =1d79 p5 v3 =a78c v1",
  "=265 v2 p2 v2 pa =266 =25c =261 =26c =26a v1 =29e =287 =29d =ab53 p8 =a794 =282 =1d8e p2 =264",
  "p8 =19b x14 =73 =63 =66 =71 =a7f6 v2 =127 =153 v33 x3 va x6 v38 x8 v46 x8 vc x6 v74 xb v1e x3",
  "v4e x1 vb x4 v21 x1 v37 x9 ve x2 va x2 v67 x18 v1c xa v6 x2 v6 x2 v6 x9 v7 x1 v7 x1 v2c =a727",
  "=ab37 =26b =ab52 v9 =28d v2 x4 m50-97d0 v2e x2 va x6 v2ba4 xc v17 x4 v31 x2104 =8c48 =66f4",
  "=8eca =8cc8 =6ed1 =4e32 =53e5 =9f9c =9f9c =5951 =91d1 =5587 =5948 =61f6 =7669 =7f85 =863f",
  "=87ba =88f8 =908f =6a02 =6d1b =70d9 =73de =843d =916a =99f1 =4e82 =5375 =6b04 =721b =862d",
  "=9e1e =5d50 =6feb =85cd =8964 =62c9 =81d8 =881f =5eca =6717 =6d6a =72fc =90ce =4f86 =51b7",
  "=52de =64c4 =6ad3 =7210 =76e7 =8001 =8606 =865c =8def =9732 =9b6f =9dfa =788c =797f =7da0",
  "=83c9 =9304 =9e7f =8ad6 =58df =5f04 =7c60 =807e =7262 =78ca =8cc2 =96f7 =58d8 =5c62 =6a13",
  "=6dda =6f0f =7d2f =7e37 =964b =52d2 =808b =51dc =51cc =7a1c =7dbe =83f1 =9675 =8b80 =62cf",
  "=6a02 =8afe =4e39 =5be7 =6012 =7387 =7570 =5317 =78fb =4fbf =5fa9 =4e0d =6ccc =6578 =7d22",
  "=53c3 =585e =7701 =8449 =8aaa =6bba =8fb0 =6c88 =62fe =82e5 =63a0 =7565 =4eae =5169 =51c9",
  "=6881 =7ce7 =826f =8ad2 =91cf =52f5 =5442 =5973 =5eec =65c5 =6ffe =792a =95ad =9a6a =9e97",
  "=9ece =529b =66c6 =6b77 =8f62 =5e74 =6190 =6200 =649a =6f23 =7149 =7489 =79ca =7df4 =806f",
  "=8f26 =84ee =9023 =934a =5217 =52a3 =54bd =70c8 =88c2 =8aaa =5ec9 =5ff5 =637b =6bae =7c3e",
  "=7375 =4ee4 =56f9 =5be7 =5dba =601c =73b2 =7469 =7f9a =8046 =9234 =96f6 =9748 =9818 =4f8b",
  "=79ae =91b4 =96b8 =60e1 =4e86 =50da =5bee =5c3f =6599 =6a02 =71ce =7642 =84fc =907c =9f8d",
  "=6688 =962e =5289 =677b =67f3 =6d41 =6e9c =7409 =7559 =786b =7d10 =985e =516d =622e =9678",
  "=502b =5d19 =6dea =8f2a =5f8b =6144 =6817 =7387 =9686 =5229 =540f =5c65 =6613 =674e =68a8",
  "=6ce5 =7406 =75e2 =7f79 =88cf =88e1 =91cc =96e2 =533f =6eba =541d =71d0 =7498 =85fa =96a3",
  "=9c57 =9e9f =6797 =6dcb =81e8 =7acb =7b20 =7c92 =72c0 =7099 =8b58 =4ec0 =8336 =523a =5207",
  "=5ea6 =62d3 =7cd6 =5b85 =6d1e =66b4 =8f3b =884c =964d =898b =5ed3 =5140 =55c0 v2 =585a v1",
  "=6674 v2 =51de =732a =76ca =793c =795e =7965 =798f =9756 =7cbe =7fbd v1 =8612 v1 =8af8 v2",
  "=9038 =90fd v3 =98ef =98fc =9928 =9db4 =90de =96b7 =4fae =50e7 =514d =52c9 =52e4 =5351 =559d",
  "=5606 =5668 =5840 =58a8 =5c64 =5c6e =6094 =6168 =618e =61f2 =654f =65e2 =6691 =6885 =6d77",
  "=6e1a =6f22 =716e =722b =7422 =7891 =793e =7949 =7948 =7950 =7956 =795d m2-80c5 =7a40 =7a81",
  "=7bc0 =7df4 =7e09 =7e41 =7f72 =8005 =81ed =8279 =8279 =8457 =8910 =8996 =8b01 =8b39 =8cd3",
  "=8d08 =8fb6 =9038 =96e3 =97ff =983b =6075 =242ee =8218 x2 =4e26 =51b5 =5168 =4f80 =5145 =5180",
  "=52c7 =52fa =559d =5555 =5599 =55e2 =585a =58b3 =5944 =5954 =5a62 =5b28 =5ed2 =5ed9 =5f69",
  "=5fad =60d8 =614e =6108 =618e =6160 =61f2 =6234 =63c4 =641c =6452 =6556 =6674 =6717 =671b",
  "=6756 =6b79 =6bba =6d41 =6edb =6ecb =6f22 =701e =716e =77a7 =7235 =72af =732a =7471 =7506",
  "=753b =761d =761f =76ca =76db =76f4 =774a =7740 =78cc =7ab1 =7bc0 =7c7b =7d5b =7df4 =7f3e",
  "=8005 =8352 =83ef =8779 =8941 =8986 =8996 =8abf =8af8 =8acb =8b01 =8afe =8aed =8b39 =8b8a",
  "=8d08 =8f38 =9072 =9199 =9276 =967c =96e3 =9756 =97db =97ff =980b =983b =9b12 =9f9c =2284a",
  "=22844 =233d5 =3b9d =4018 =4039 =25249 =25cd0 =27ed3 =9f43 =9f8e x26 =66.66 =66.69 =66.6c",
  "=66.66.69 =66.66.6c =73.74 =73.74 xc =574.576 =574.565 =574.56b =57e.576 =574.56d x5 =5d9.5b4",
  "v1 =5f2.5b7 =5e2 =5d0 m2-f54f m3-f549 =5e8 =5ea =2b =5e9.5c1 =5e9.5c2 =5e9.5bc.5c1",
  "=5e9.5bc.5c2 =5d0.5b7 =5d0.5b8 =5d0.5bc =5d1.5bc =5d2.5bc =5d3.5bc =5d4.5bc =5d5.5bc =5d6.5bc",
  "x1 =5d8.5bc =5d9.5bc =5da.5bc =5db.5bc =5dc.5bc x1 =5de.5bc x1 =5e0.5bc =5e1.5bc x1 =5e3.5bc",
  "=5e4.5bc x1 =5e6.5bc =5e7.5bc =5e8.5bc =5e9.5bc =5ea.5bc =5d5.5b9 =5d1.5bf =5db.5bf =5e4.5bf",
  "=5d0.5dc =671 =671 s4=67b s4=67e s4=680 s4=67a s4=67f s4=679 s4=6a4 s4=6a6 s4=684 s4=683",
  "s4=686 s4=687 =68d =68d =68c =68c =68e =68e =688 =688 =698 =698 =691 =691 s4=6a9 s4=6af",
  "s4=6b3 s4=6b1 =6ba m2-f4e5 s3=6bb =6c0 m2-f4e5 s3=6c1 s4=6be =6d2 m2-f4dd =6d3 v21 s4=6ad",
  "=6c7 =6c7 =6c6 =6c6 =6c8 =6c8 =6c7.674 =6cb =6cb =6c5 =6c5 =6c9 =6c9 s4=6d0 =649 =649",
  "=626.627 =626.627 =626.6d5 =626.6d5 =626.648 =626.648 =626.6c7 =626.6c7 =626.6c6 =626.6c6",
  "=626.6c8 =626.6c8 s3=626.6d0 s3=626.649 s4=6cc =626.62c =626.62d =626.645 =626.649 =626.64a",
  "=628.62c =628.62d =628.62e =628.645 =628.649 =628.64a =62a.62c =62a.62d =62a.62e =62a.645",
  "=62a.649 =62a.64a =62b.62c =62b.645 =62b.649 =62b.64a =62c.62d =62c.645 =62d.62c =62d.645",
  "=62e.62c =62e.62d =62e.645 =633.62c =633.62d =633.62e =633.645 =635.62d =635.645 =636.62c",
  "=636.62d =636.62e =636.645 =637.62d =637.645 =638.645 =639.62c =639.645 =63a.62c =63a.645",
  "=641.62c =641.62d =641.62e =641.645 =641.649 =641.64a =642.62d =642.645 =642.649 =642.64a",
  "=643.627 =643.62c =643.62d =643.62e =643.644 =643.645 =643.649 =643.64a =644.62c =644.62d",
  "=644.62e =644.645 =644.649 =644.64a =645.62c =645.62d =645.62e =645.645 =645.649 =645.64a",
  "=646.62c =646.62d =646.62e =646.645 =646.649 =646.64a =647.62c =647.645 =647.649 =647.64a",
  "=64a.62c =64a.62d =64a.62e =64a.645 =64a.649 =64a.64a =630.670 =631.670 =649.670 =20.64c.651",
  "=20.64d.651 =20.64e.651 =20.64f.651 =20.650.651 =20.651.670 =626.631 =626.632 =626.645",
  "=626.646 =626.649 =626.64a =628.631 =628.632 =628.645 =628.646 =628.649 =628.64a =62a.631",
  "=62a.632 =62a.645 =62a.646 =62a.649 =62a.64a =62b.631 =62b.632 =62b.645 =62b.646 =62b.649",
  "=62b.64a =641.649 =641.64a =642.649 =642.64a =643.627 =643.644 =643.645 =643.649 =643.64a",
  "=644.645 =644.649 =644.64a =645.627 =645.645 =646.631 =646.632 =646.645 =646.646 =646.649",
  "=646.64a =649.670 =64a.631 =64a.632 =64a.645 =64a.646 =64a.649 =64a.64a =626.62c =626.62d",
  "=626.62e =626.645 =626.647 =628.62c =628.62d =628.62e =628.645 =628.647 =62a.62c =62a.62d",
  "=62a.62e =62a.645 =62a.647 =62b.645 =62c.62d =62c.645 =62d.62c =62d.645 =62e.62c =62e.645",
  "=633.62c =633.62d =633.62e =633.645 =635.62d =635.62e =635.645 =636.62c =636.62d =636.62e",
  "=636.645 =637.62d =638.645 =639.62c =639.645 =63a.62c =63a.645 =641.62c =641.62d =641.62e",
  "=641.645 =642.62d =642.645 =643.62c =643.62d =643.62e =643.644 =643.645 =644.62c =644.62d",
  "=644.62e =644.645 =644.647 =645.62c =645.62d =645.62e =645.645 =646.62c =646.62d =646.62e",
  "=646.645 =646.647 =647.62c =647.645 =647.670 =64a.62c =64a.62d =64a.62e =64a.645 =64a.647",
  "=626.645 =626.647 =628.645 =628.647 =62a.645 =62a.647 =62b.645 =62b.647 =633.645 =633.647",
  "=634.645 =634.647 =643.644 =643.645 =644.645 =646.645 =646.647 =64a.645 =64a.647 =640.64e.651",
  "=640.64f.651 =640.650.651 =637.649 =637.64a =639.649 =639.64a =63a.649 =63a.64a =633.649",
  "=633.64a =634.649 =634.64a =62d.649 =62d.64a =62c.649 =62c.64a =62e.649 =62e.64a =635.649",
  "=635.64a =636.649 =636.64a =634.62c =634.62d =634.62e =634.645 =634.631 =633.631 =635.631",
  "=636.631 =637.649 =637.64a =639.649 =639.64a =63a.649 =63a.64a =633.649 =633.64a =634.649",
  "=634.64a =62d.649 =62d.64a =62c.649 =62c.64a =62e.649 =62e.64a =635.649 =635.64a =636.649",
  "=636.64a =634.62c =634.62d =634.62e =634.645 =634.631 =633.631 =635.631 =636.631 =634.62c",
  "=634.62d =634.62e =634.645 =633.647 =634.647 =637.645 =633.62c =633.62d =633.62e =634.62c",
  "=634.62d =634.62e =637.645 =638.645 =627.64b =627.64b v12 =62a.62c.645 =62a.62d.62c",
  "=62a.62d.62c =62a.62d.645 =62a.62e.645 =62a.645.62c =62a.645.62d =62a.645.62e =62c.645.62d",
  "=62c.645.62d =62d.645.64a =62d.645.649 =633.62d.62c =633.62c.62d =633.62c.649 =633.645.62d",
  "=633.645.62d =633.645.62c =633.645.645 =633.645.645 =635.62d.62d =635.62d.62d =635.645.645",
  "=634.62d.645 =634.62d.645 =634.62c.64a =634.645.62e =634.645.62e =634.645.645 =634.645.645",
  "=636.62d.649 =636.62e.645 =636.62e.645 =637.645.62d =637.645.62d =637.645.645 =637.645.64a",
  "=639.62c.645 =639.645.645 =639.645.645 =639.645.649 =63a.645.645 =63a.645.64a =63a.645.649",
  "=641.62e.645 =641.62e.645 =642.645.62d =642.645.645 =644.62d.645 =644.62d.64a =644.62d.649",
  "=644.62c.62c =644.62c.62c =644.62e.645 =644.62e.645 =644.645.62d =644.645.62d =645.62d.62c",
  "=645.62d.645 =645.62d.64a =645.62c.62d =645.62c.645 =645.62e.62c =645.62e.645 v2 =645.62c.62e",
  "=647.645.62c =647.645.645 =646.62d.645 =646.62d.649 =646.62c.645 =646.62c.645 =646.62c.649",
  "=646.645.64a =646.645.649 =64a.645.645 =64a.645.645 =628.62e.64a =62a.62c.64a =62a.62c.649",
  "=62a.62e.64a =62a.62e.649 =62a.645.64a =62a.645.649 =62c.645.64a =62c.62d.649 =62c.645.649",
  "=633.62e.649 =635.62d.64a =634.62d.64a =636.62d.64a =644.62c.64a =644.645.64a =64a.62d.64a",
  "=64a.62c.64a =64a.645.64a =645.645.64a =642.645.64a =646.62d.64a =642.645.62d =644.62d.645",
  "=639.645.64a =643.645.64a =646.62c.62d =645.62e.64a =644.62c.645 =643.645.645 =644.62c.645",
  "=646.62c.62d =62c.62d.64a =62d.62c.64a =645.62c.64a =641.645.64a =628.62d.64a =643.645.645",
  "=639.62c.645 =635.645.645 =633.62e.64a =646.62c.64a v8 x20 =635.644.6d2 =642.644.6d2",
  "=627.644.644.647 =627.643.628.631 =645.62d.645.62f =635.644.639.645 =631.633.648.644",
  "=639.644.64a.647 =648.633.644.645 =635.644.649",
  "=635.644.649.20.627.644.644.647.20.639.644.64a.647.20.648.633.644.645",
  "=62c.644.20.62c.644.627.644.647 =631.6cc.627.644 v3 i10 =2c =3001 x1 m2-fdd9 =21 =3f m2-ce01",
  "x7 v10 x1 =2014 =2013 =5f =5f m2-fe0d =7b =7d m2-ce25 m2-ce2b m2-ce33 m2-ce37 m4-ce35 v2 =5b",
  "=5d s4=20.305 s3=5f =2c =3001 x2 =3b =3a =3f =21 =2014 m2-fe31 =7b =7d m2-ce49 =23 =26",
  "m2-fe37 =2d =3c =3e =3d x1 =5c m2-fe45 =40 x4 =20.64b =640.64b =20.64c v1 =20.64d x1 =20.64e",
  "=640.64e =20.64f =640.64f =20.650 =640.650 =20.651 =640.651 =20.652 =640.652 m2-f85f m2-f860",
  "m2-f861 m2-f862 m2-f863 s3=626 =627 m2-f867 s3=628 =629 m2-f86b s3=62a s4=62b s4=62c s4=62d",
  "s4=62e =62f m2-f87b m2-f87c m2-f87d m2-f87e s3=633 s4=634 s4=635 s4=636 s4=637 s4=638 s4=639",
  "s4=63a s4=641 s4=642 s4=643 s4=644 s4=645 s4=646 s4=647 =648 m2-f8a6 m2-f8a7 s3=64a =644.622",
  "=644.622 =644.623 =644.623 =644.625 =644.625 =644.627 =644.627 x2 i1 x1 m20-fee0 m1a-fec0",
  "m24-fee0 m2-d5da =2e m2-cf56 =3001 =30fb =30f2 =30a1 =30a3 =30a5 =30a7 =30a9 =30e3 =30e5",
  "=30e7 =30c3 =30fc =30a2 =30a4 =30a6 =30a8 m2-cecb =30ad =30af =30b1 =30b3 =30b5 =30b7 =30b9",
  "=30bb =30bd =30bf =30c1 =30c4 =30c6 =30c8 m6-cebb =30d2 =30d5 =30d8 =30db m5-ceb1 =30e4 =30e6",
  "m6-ceae =30ef =30f3 m2-cf05 i1 m2-eea1 =11aa =1102 m2-edf9 m3-eea4 m6-edfa =111a m3-eeab",
  "=1121 ma-eeac x3 m6-ee61 x2 m6-ee63 x2 m6-ee65 x2 m3-ee67 x3 m2-ff3e =ac =20.304 =a6 =a5",
  "=20a9 x1 =2502 m4-de59 =25a0 =25cb x11 vc x1 v1a x1 v13 x1 v2 x1 vf x2 ve x22 v7b x5 v3 x4",
  "v2d x3 v58 x1 vd x3 v1 x2f v2e x82 v1d x3 v31 xf v1c x4 v24 x9 v1e x5 v2b x5 v1e x1 v25 x4 ve",
  "x2a m28+28 v76 x2 va x6 m24+28 x4 v24 x4 v28 x8 v34 xb v1 mb+27 x1 mf+27 x1 m7+27 x1 m2+27 x1",
  "vb x1 vf x1 v7 x1 v2 x3 v34 xc v137 x9 v16 xa v8 x18 v1 m2-104b1 =e6 =299 =253 x1 =2a3 =ab66",
  "=2a5 =2a4 m2-10535 =1d91 =258 =25e =2a9 =264 =262 =260 =29b =127 =29c =267 =284 m2-104ef =26c",
  "=1df04 =a78e =26e =1df05 =28e =1df06 =f8 m2-1052d =71 =27a =1df08 m2-1052b =280 =2a8 =2a6",
  "=ab67 =2a7 =288 =2c71 x1 =28f m2-10512 =298 m3-105f6 =1df0a =1df1e x45 v6 x2 v1 x1 v2c x1 v2",
  "x3 v1 x2 v17 x1 v48 x8 v9 x30 v13 x1 v2 x5 v21 x3 v1b x5 v1b x26 v38 x4 v14 x2 v32 x1 v2 x5",
  "v8 x1 v3 x1 v1d x2 v3 x4 va x7 v9 x7 v40 x20 v27 x4 vc x9 v36 x3 v1d x2 v1b x5 v1a x7 v4 xc",
  "v7 x50 v49 x37 m33+40 xd v33 x7 v2e x8 va x6 v10 m16+20 x3 v1d x8 v2 xd0 v1f x1 v2a x1 v3 x2",
  "v2 x10 v6 x8 v9 x21 v2e x8 v2a x16 v1a x26 v1c x14 v17 x9 v4e x4 v24 x9 v3e x1 v5 xd v19 x7",
  "va x6 v35 x1 v12 x8 v27 x9 v60 x1 v14 xb v12 x1 v2f x3e v7 x1 v1 x1 v4 x1 vf x1 vb x6 v3b x5",
  "va x6 v4 x1 v8 x2 v2 x2 v16 x1 v7 x1 v2 x1 v5 x1 va x2 v2 x2 v3 x2 v1 x6 v1 x5 v7 x2 v7 x3 v5",
  "xb va x1 v1 x2 v1 x1 v26 x1 va x1 v1 x2 v1 x1 v4 x1 va x1 v2 x8 v2 x1d v5c x1 v5 x1e v48 x8",
  "va xa6 v36 x2 v26 x22 v45 xb va x6 vd x13 v3a x6 va x6 v14 x1c v1b x2 vf x4 v17 xb9 v3c x64",
  "m20+20 v33 xc v8 x2 v1 x2 v8 x1 v2 x1 v1e x1 v2 x2 vc x9 va x46 v8 x2 v2e x2 vb x1b v48 x8",
  "v53 xd v49 x7 va x56 v8 x58 v22 xe va x6 v9 x1 v2d x1 ve xa v1d x3 v20 x2 v16 x1 ve x49 v7 x1",
  "v2 x1 v2c x3 v1 x1 v2 x1 v9 x8 va x6 v6 x1 v2 x1 v25 x1 v2 x1 v6 x7 va x6 v2c x4 va xf6 v19",
  "x7 v11 x1 v29 x3 v1d x55 v1 xf v32 xd v39b x66 v6f x1 v5 xb vc4 xa4c v63 xd v430 x10 v16 xa",
  "vf9b x5 v247 x1ab9 v3a x6c6 v239 x7 v1f x1 va x4 v51 x1 va x6 v1e x2 v6 xa v46 xa va x1 v7 x1",
  "v15 x5 v13 x1b0 v3a xc6 m20+20 v3b x5 m19+1b x2 v19 x2c v4b x4 v39 x7 v11 x40 v5 xb v7 x9",
  "v1cd6 x29 v20 x61 v73 x21fd v4 x1 v7 x1 v2 x1 v123 xf v1 x1d v3 x2 v1 xe v4 x8 v18c x904 v6b",
  "x5 vd x3 v9 x7 va x2 v4 i4 xf5c vd6 m1a-1cc75 ma-1ccc0 v3 x3 v1b4 x6 v17 xf v11 xf v2e x2 v17",
  "x9 v74 x3c vf6 xa v27 x2 v35 =1d157.1d165 =1d158.1d165 =1d158.1d165.1d16e =1d158.1d165.1d16f",
  "=1d158.1d165.1d170 =1d158.1d165.1d171 =1d158.1d165.1d172 ve i8 v40 =1d1b9.1d165 =1d1ba.1d165",
  "=1d1b9.1d165.1d16e =1d1ba.1d165.1d16e =1d1b9.1d165.1d16f =1d1ba.1d165.1d16f v2a x15 v46 x7a",
  "v14 xc v14 xc v57 x9 v19 x87 m1a-1d39f m1a-1d3b9 m1a-1d3d3 m7-1d3ed x1 m12-1d3ed m1a-1d407",
  "m1a-1d421 =61 x1 m2-1d43b x2 =67 x2 m2-1d43b x2 m4-1d43b x1 m8-1d43b m4-1d455 x1 =66 x1",
  "m7-1d455 x1 mb-1d455 m1a-1d46f m1a-1d489 m2-1d4a3 x1 m4-1d4a3 x2 m8-1d4a3 x1 m7-1d4a3 x1",
  "m1a-1d4bd m2-1d4d7 x1 m4-1d4d7 x1 m5-1d4d7 x1 =6f x3 m7-1d4d7 x1 m1a-1d4f1 m1a-1d50b",
  "m1a-1d525 m1a-1d53f m1a-1d559 m1a-1d573 m1a-1d58d m1a-1d5a7 m1a-1d5c1 m1a-1d5db m1a-1d5f5",
  "m1a-1d60f m1a-1d629 =131 =237 x2 m11-1d2f7 =3b8 m7-1d2f7 =2207 m11-1d311 =3c3 m7-1d311 =2202",
  "=3b5 =3b8 =3ba =3c6 =3c1 =3c0 m11-1d331 =3b8 m7-1d331 =2207 m11-1d34b =3c3 m7-1d34b =2202",
  "=3b5 =3b8 =3ba =3c6 =3c1 =3c0 m11-1d36b =3b8 m7-1d36b =2207 m11-1d385 =3c3 m7-1d385 =2202",
  "=3b5 =3b8 =3ba =3c6 =3c1 =3c0 m11-1d3a5 =3b8 m7-1d3a5 =2207 m11-1d3bf =3c3 m7-1d3bf =2202",
  "=3b5 =3b8 =3ba =3c6 =3c1 =3c0 m11-1d3df =3b8 m7-1d3df =2207 m11-1d3f9 =3c3 m7-1d3f9 =2202",
  "=3b5 =3b8 =3ba =3c6 =3c1 =3c0 =3dd =3dd x2 ma-1d79e ma-1d7a8 ma-1d7b2 ma-1d7bc ma-1d7c6 v28c",
  "xf v5 x1 vf x450 v1f x6 v6 xd5 v7 x1 v11 x2 v7 x1 v2 x1 v5 x5 m9-1dc00 m3-1dbff mb-1dbfe =44b",
  "m2-1dbfb =a689 =4d9 =456 =458 =4e9 =4af =4cf m9-1dc21 m2-1dc20 m2-1dc1e =441 m6-1dc1c",
  "m2-1dc1b =491 =456 =455 =45f =4ab =a651 =4b1 x21 v1 x70 v2d x3 ve x2 va x4 v2 x140 v1f x11",
  "v3a x5 v1 x1d0 v2a xd6 v2b x4 v1 xc0 v1f x1 v16 x8 v2 xe0 v7 x1 v4 x1 v2 x1 vf x1 vc5 x2 v10",
  "x29 m22+22 v2a x4 va x4 v2 x311 v44 x4c v3d xc2 m2-1e7d9 =62c =62f x1 =648 =632 =62d =637",
  "=64a m4-1e7c7 =633 =639 =641 =635 =642 =631 =634 m2-1e7eb =62e =630 =636 =638 =63a =66e =6ba",
  "=6a1 =66f x1 =628 =62c x1 =647 x2 =62d x1 =64a m4-1e7e7 =633 =639 =641 =635 =642 x1 =634",
  "m2-1e80b =62e x1 =636 x1 =63a x6 =62c x4 =62d x1 =64a x1 =644 x1 =646 =633 =639 x1 =635 =642",
  "x1 =634 x2 =62e x1 =636 x1 =63a x1 =6ba x1 =66f x1 =628 =62c x1 =647 x2 =62d =637 =64a =643",
  "x1 m2-1e827 =633 =639 =641 =635 =642 x1 =634 m2-1e84b =62e x1 =636 =638 =63a =66e x1 =6a1 x1",
  "m2-1e859 =62c =62f m2-1e83d =632 =62d =637 =64a x1 m3-1e847 =633 =639 =641 =635 =642 =631",
  "=634 m2-1e86b =62e =630 =636 =638 =63a x5 =628 =62c =62f x1 =648 =632 =62d =637 =64a x1",
  "m3-1e867 =633 =639 =641 =635 =642 =631 =634 m2-1e88b =62e =630 =636 =638 =63a x34 v2 x10e v2c",
  "x4 v64 xc vf x2 vf x1 vf x1 v25 xb =30.2c =31.2c =32.2c =33.2c =34.2c =35.2c =36.2c =37.2c",
  "=38.2c =39.2c v5 =28.61.29 =28.62.29 =28.63.29 =28.64.29 =28.65.29 =28.66.29 =28.67.29",
  "=28.68.29 =28.69.29 =28.6a.29 =28.6b.29 =28.6c.29 =28.6d.29 =28.6e.29 =28.6f.29 =28.70.29",
  "=28.71.29 =28.72.29 =28.73.29 =28.74.29 =28.75.29 =28.76.29 =28.77.29 =28.78.29 =28.79.29",
  "=28.7a.29 =3014.73.3015 =63 =72 =63.64 =77.7a v1 m1a-1f0cf =68.76 =6d.76 =73.64 =73.73",
  "=70.70.76 =77.63 v1a =6d.63 =6d.64 =6d.72 v23 =64.6a v1d x38 v1a =307b.304b =30b3.30b3 =30b5",
  "xd =624b =5b57 =53cc =30c7 =4e8c =591a =89e3 =5929 =4ea4 =6620 =7121 =6599 =524d =5f8c =518d",
  "=65b0 =521d =7d42 =751f =8ca9 =58f0 =5439 =6f14 =6295 =6355 =4e00 =4e09 =904a =5de6 =4e2d",
  "=53f3 =6307 =8d70 =6253 =7981 =7a7a =5408 =6e80 =6709 =6708 =7533 =5272 =55b6 =914d x4",
  "=3014.672c.3015 =3014.4e09.3015 =3014.4e8c.3015 =3014.5b89.3015 =3014.70b9.3015",
  "=3014.6253.3015 =3014.76d7.3015 =3014.52dd.3015 =3014.6557.3015 x7 =5f97 =53ef xe v6 x9a v3d9",
  "x3 v11 x3 vd x3 vda x6 vc x4 v1 xf vc x4 v38 x8 va x6 v28 x8 v1e x2 vc x4 v2 xe v9 x27 v158",
  "x8 ve x2 vd x3 vb x3 v39 x1 v1 x4 v10 x2 vc x4 va x7 v93 x1 v5c ma-1fbc0 v1 x405 va6e0 x20",
  "v111e x2 v168e x2 v1d31 xf v26e x9a2 =4e3d =4e38 =4e41 =20122 =4f60 =4fae =4fbb =5002 =507a",
  "=5099 =50e7 =50cf =349e =2063a =514d =5154 =5164 =5177 =2051c =34b9 =5167 =518d =2054b =5197",
  "=51a4 =4ecc =51ac =51b5 =291df =51f5 =5203 =34df =523b =5246 =5272 =5277 =3515 =52c7 =52c9",
  "=52e4 =52fa m2-2a524 =5317 =5349 =5351 =535a =5373 =537d s3=537f =20a2c =7070 =53ca =53df",
  "=20b63 =53eb =53f1 =5406 =549e =5438 =5448 =5468 =54a2 =54f6 =5510 =5553 =5563 =5584 =5584",
  "=5599 =55ab =55b3 =55c2 =5716 =5606 =5717 =5651 =5674 =5207 =58ee =57ce =57f4 =580d =578b",
  "=5832 =5831 =58ac =214e4 =58f2 =58f7 =5906 =591a =5922 =5962 =216a8 =216ea =59ec =5a1b =5a27",
  "=59d8 =5a66 =36ee =36fc =5b08 =5b3e =5b3e =219c8 =5bc3 =5bd8 =5be7 =5bf3 =21b18 =5bff =5c06",
  "=5f53 =5c22 =3781 =5c60 =5c6e =5cc0 =5c8d =21de4 =5d43 =21de6 =5d6e =5d6b =5d7c m2-29aa0",
  "=382f =5dfd =5e28 =5e3d =5e69 =3862 =22183 =387c =5eb0 =5eb3 =5eb6 =5eca =2a392 =5efe =22331",
  "=22331 =8201 =5f22 =5f22 =38c7 =232b8 =261da =5f62 =5f6b =38e3 =5f9a =5fcd =5fd7 =5ff9 =6081",
  "=393a =391c =6094 =226d4 =60c7 =6148 =614c =614e =614c =617a =618e =61b2 =61a4 =61af =61de",
  "=61f2 =61f6 =6210 =621b =625d =62b1 =62d4 =6350 =22b0c =633d =62fc =6368 =6383 =63e4 =22bf1",
  "=6422 =63c5 =63a9 =3a2e =6469 =647e =649d =6477 =3a6c =654f =656c =2300a =65e3 =66f8 =6649",
  "=3b19 =6691 =3b08 =3ae4 =5192 =5195 =6700 =669c =80ad =43d9 =6717 =671b =6721 =675e =6753",
  "=233c3 =3b49 =67fa =6785 =6852 =6885 =2346d =688e =681f =6914 =3b9d =6942 =69a3 =69ea =6aa8",
  "=236a3 =6adb =3c18 =6b21 =238a7 =6b54 =3c4e =6b72 =6b9f m2-28d3b =23a8d =21d0b =23afa =6c4e",
  "=23cbc =6cbf =6ccd =6c67 =6d16 =6d3e =6d77 =6d41 =6d69 =6d78 =6d85 =23d1e =6d34 =6e2f =6e6e",
  "=3d33 =6ecb =6ec7 =23ed1 =6df9 =6f6e =23f5e =23f8e =6fc6 =7039 =701e =701b =3d96 =704a =707d",
  "=7077 =70ad =20525 =7145 =24263 =719c =243ab =7228 =7235 =7250 =24608 =7280 =7295 =24735",
  "=24814 =737a =738b =3eac =73a5 =3eb8 =3eb8 =7447 =745c =7471 =7485 =74ca =3f1b =7524 =24c36",
  "=753e =24c92 =7570 =2219f =7610 =24fa1 =24fb8 =25044 =3ffc =4008 =76f4 =250f3 =250f2 =25119",
  "=25133 m2-28227 =771f =774a =4039 =778b =4046 =4096 =2541d =784e =788c =78cc =40e3 =25626",
  "=7956 =2569a =256c5 =798f =79eb =412f =7a40 =7a4a =7a4f =2597c =25aa7 =25aa7 =7aee =4202",
  "=25bab =7bc6 =7bc9 =4227 =25c80 =7cd2 =42a0 =7ce8 =7ce3 =7d00 =25f86 =7d63 =4301 =7dc7 =7e02",
  "=7e45 =4334 =26228 =26247 =4359 =262d9 =7f7a =2633e =7f95 =7ffa =8005 =264da =26523 =8060",
  "=265a8 =8070 =2335f =43d5 =80b2 =8103 =440b =813e =5ab5 =267a7 =267b5 =23393 =2339c =8201",
  "=8204 =8f9e =446b =8291 =828b =829d =52b3 =82b1 =82b3 =82bd =82e6 =26b3c =82e5 =831d =8363",
  "=83ad =8323 =83bd =83e7 =8457 =8353 =83ca =83cc =83dc =26c36 =26d6b =26cd5 =452b =84f1 =84f3",
  "=8516 =273ca =8564 =26f2c =455d =4561 =26fb1 =270d2 =456b =8650 =865c =8667 =8669 =86a9 =8688",
  "=870e =86e2 =8779 =8728 =876b =8786 =45d7 =87e1 =8801 =45f9 =8860 =8863 =27667 =88d7 =88de",
  "=4635 =88fa =34bb =278ae =27966 =46be =46c7 =8aa0 =8aed =8b8a =8c55 =27ca8 =8cab =8cc1 =8d1b",
  "=8d77 =27f2f =20804 =8dcb =8dbc =8df0 =208de =8ed4 =8f38 =285d2 =285ed =9094 =90f1 =9111",
  "=2872e =911b =9238 m2-26711 =927c =93f9 =9415 =28bfa =958b =4995 =95b7 =28d77 =49e6 =96c3",
  "=5db2 =9723 =29145 =2921a =4a6e =4a76 =97e0 =2940a =4ab2 =29496 =980b =980b =9829 =295b6",
  "=98e2 =4b33 =9929 =99a7 =99c2 =99fe =4bce =29b30 =9b12 =9c40 =9cfd =4cce =4ced =9d67 =2a0ce",
  "=4cf8 =2a105 =2a20e =2a291 =9ebb =4d56 =9ef9 =9efe =9f05 =9f0f =9f16 =9f3b =2a600 x5e2 v134b",
  "x5 v212a xacc86 if0 x2fe10"]

end RegistryLogin.Url.Idna
